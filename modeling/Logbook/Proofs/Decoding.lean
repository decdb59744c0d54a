import Logbook.Proofs.Encoding
import Mathlib.Data.List.Nodup

namespace Logbook

open Json

namespace Json.Value

section

variable {name : String} {ms ns : List (Option String × Value)}

theorem member?_perm (h : ms.Perm ns) : member? name ms = member? name ns := by
  have hf := h.filter fun m => m.1 == some name
  unfold member?
  split
  · next hm =>
    rw [hm] at hf
    rw [← hf.nil_eq]
  · next m hm =>
    rw [hm] at hf
    rw [← hf.singleton_eq]
  · next h0 h1 =>
    split
    · next hn => exact absurd (List.perm_nil.mp (hn ▸ hf)) h0
    · next m hn => exact absurd (List.perm_singleton.mp (hn ▸ hf)) (h1 m)
    · rfl

theorem member?_insert {m : Option String × Value} (h : m.1 ≠ some name) :
    member? name (ms ++ m :: ns) = member? name (ms ++ ns) := by
  simp [member?, h]

theorem filter_of_absent (h : ∀ m ∈ ms, m.1 ≠ some name) :
    ms.filter (fun m => m.1 == some name) = [] := by
  simpa using h

theorem member?_of_absent (h : ∀ m ∈ ms, m.1 ≠ some name) : member? name ms = some none := by
  simp only [member?, filter_of_absent h]

theorem member?_of_once (v : Value) (h : ∀ m ∈ ms ++ ns, m.1 ≠ some name) :
    member? name (ms ++ (some name, v) :: ns) = some (some v) := by
  have hf : ((some name, v) :: (ms ++ ns)).filter (fun m => m.1 == some name) = [(some name, v)] := by
    rw [List.filter_cons_of_pos (by simp), filter_of_absent h]
  rw [member?_perm List.perm_middle]
  simp only [member?, hf]

theorem member?_of_twice (v w : Value) (ls : List (Option String × Value)) :
    member? name (ms ++ (some name, v) :: (ns ++ (some name, w) :: ls)) = none := by
  have hp : (ms ++ (some name, v) :: (ns ++ (some name, w) :: ls)).Perm
      ((some name, v) :: (some name, w) :: (ms ++ (ns ++ ls))) :=
    List.perm_middle.trans ((List.perm_middle.append_left ms).trans List.perm_middle |>.cons _)
  rw [member?_perm hp]
  simp [member?]

theorem hasNames_perm (h : ms.Perm ns) : hasNames ms = hasNames ns := h.all_eq

theorem hasNames_insert (m : Option String × Value) :
    hasNames (ms ++ m :: ns) = (m.1.isSome && hasNames (ms ++ ns)) := by
  rw [hasNames_perm List.perm_middle, hasNames, List.all_cons]
  rfl

end

end Json.Value

theorem mapM_eq_none_of_mem {α β : Type} {f : α → Option β} {a : α} {as : List α} (ha : a ∈ as)
    (h : f a = none) : as.mapM f = none := by
  induction as with
  | nil => cases ha
  | cons b as ih =>
    obtain rfl | ha := List.mem_cons.mp ha
    · simp [h]
    · simp [ih ha]

namespace HostSettings

def decode? (text : String) : Option HostSettings :=
  (Value.read? text).bind ofJson?

theorem decode?_of_written {v : Value} {text : String} (h : v.Written text) :
    decode? text = ofJson? v := by
  rw [decode?, Value.read?_eq_some_iff.mpr h, Option.bind_some]

/-- The known keys in the order of the fields, each with the value that stands for its default. -/
def defaults : List (String × Value) :=
  [("log_prefix", .null), ("error_prefix", .null), ("max_messages", .number ['0']),
    ("policy", .ofText "diagnostics_only")]

theorem nodup_defaults : (defaults.map Prod.fst).Nodup := by decide

/-- The value under a known key, or its default; a key that occurs twice has none. -/
def field? (ms : List (Option String × Value)) (field : String × Value) : Option Value :=
  (Value.member? field.1 ms).map (·.getD field.2)

theorem ofFields?_getD (logPrefix errorPrefix maxMessages retention : Option Value) :
    ofFields? logPrefix errorPrefix maxMessages retention =
      ofFields? (some (logPrefix.getD .null)) (some (errorPrefix.getD .null))
        (some (maxMessages.getD (.number ['0'])))
        (some (retention.getD (.ofText "diagnostics_only"))) := by
  cases logPrefix <;> cases errorPrefix <;> cases maxMessages <;> cases retention <;> rfl

variable {ms ns : List (Option String × Value)}

theorem ofJson?_object (h : Value.hasNames ms = true) : ofJson? (.object ms) =
    (defaults.mapM (field? ms)).bind fun vs => ofJson? (.array vs) := by
  simp [ofJson?, h, defaults, field?, Option.bind_map, Option.bind_assoc, ← ofFields?_getD]

theorem ofJson?_of_not_hasNames (h : Value.hasNames ms = false) : ofJson? (.object ms) = none := by
  simp [ofJson?, h]

theorem ofJson?_object_congr (hn : Value.hasNames ms = Value.hasNames ns)
    (hf : ∀ field ∈ defaults, field? ms field = field? ns field) :
    ofJson? (.object ms) = ofJson? (.object ns) := by
  cases h : Value.hasNames ms with
  | true =>
    rw [ofJson?_object h, ofJson?_object (hn ▸ h)]
    simp only [defaults, List.forall_mem_cons] at hf
    simp [defaults, hf]
  | false => rw [ofJson?_of_not_hasNames h, ofJson?_of_not_hasNames (hn ▸ h)]

theorem ofJson?_perm (h : ms.Perm ns) : ofJson? (.object ms) = ofJson? (.object ns) :=
  ofJson?_object_congr (Value.hasNames_perm h) fun field _ => by
    rw [field?, field?, Value.member?_perm h]

theorem ofJson?_insert {key : String} (v : Value) (h : key ∉ defaults.map Prod.fst) :
    ofJson? (.object (ms ++ (some key, v) :: ns)) = ofJson? (.object (ms ++ ns)) := by
  apply ofJson?_object_congr
  · simp [Value.hasNames_insert]
  · intro field hf
    have hk : some key ≠ some field.1 := by
      rintro ⟨⟩
      exact h (List.mem_map_of_mem hf)
    rw [field?, field?, Value.member?_insert hk]

theorem ofJson?_default {field : String × Value} (hf : field ∈ defaults)
    (h : ∀ m ∈ ms ++ ns, m.1 ≠ some field.1) :
    ofJson? (.object (ms ++ (some field.1, field.2) :: ns)) = ofJson? (.object (ms ++ ns)) := by
  apply ofJson?_object_congr
  · simp [Value.hasNames_insert]
  · intro other ho
    by_cases he : other = field
    · subst he
      simp [field?, Value.member?_of_once _ h, Value.member?_of_absent h]
    · have hk : some field.1 ≠ some other.1 := fun hk =>
        he (List.inj_on_of_nodup_map nodup_defaults ho hf (Option.some.inj hk).symm)
      rw [field?, field?, Value.member?_insert hk]

theorem ofJson?_twice {field : String × Value} (hf : field ∈ defaults) (v w : Value)
    (ls : List (Option String × Value)) :
    ofJson? (.object (ms ++ (some field.1, v) :: (ns ++ (some field.1, w) :: ls))) = none := by
  cases h : Value.hasNames (ms ++ (some field.1, v) :: (ns ++ (some field.1, w) :: ls)) with
  | true =>
    rw [ofJson?_object h]
    have ht : field? (ms ++ (some field.1, v) :: (ns ++ (some field.1, w) :: ls)) field = none := by
      rw [field?, Value.member?_of_twice, Option.map_none]
    rw [mapM_eq_none_of_mem hf ht, Option.bind_none]
  | false => exact ofJson?_of_not_hasNames h

theorem ofJson?_array : ∀ vs : List Value, vs.length ≤ 4 →
    ofJson? (.array vs) = ofJson? (.ofMembers ((defaults.map Prod.fst).zip vs))
  | [], _ => rfl
  | [_], _ => rfl
  | [_, _], _ => rfl
  | [_, _, _], _ => rfl
  | [_, _, _, _], _ => rfl
  | _ :: _ :: _ :: _ :: _ :: _, h => absurd h (by simp)

theorem ofJson?_array_of_lt {vs : List Value} (h : 4 < vs.length) : ofJson? (.array vs) = none :=
  if_neg (Nat.not_le.mpr h)

/-- Every text of the one value has the outcome of every text of the other. -/
def DecodedAlike (v w : Value) : Prop :=
  ∀ s t, v.Written s → w.Written t → decode? s = decode? t

theorem decodedAlike_of_eq {v w : Value} (h : ofJson? v = ofJson? w) : DecodedAlike v w := by
  intro s t hs ht
  rw [decode?_of_written hs, decode?_of_written ht, h]

/-- Decoding settings depends on nothing but what is under the known keys. It is the same for all texts
with the same tokens, whatever blanks are around them; the order of the members does not matter, nor does
a member under any other key; a default may be given or left out; a known key may not be given twice. The
items of an array are the first fields. A key is a text, and an object with a name that is none is not
decoded. -/
theorem decoded_by_known_keys :
    Value.ofMembers defaults = toJson {} ∧
    (∀ v ts s t, Phrase.Formed (.value v) ts → LaidOut ts s.toList → LaidOut ts t.toList →
      decode? s = decode? t) ∧
    (∀ ms ns, ms.Perm ns → DecodedAlike (.object ms) (.object ns)) ∧
    (∀ ms ns key v, key ∉ defaults.map Prod.fst →
      DecodedAlike (.object (ms ++ ns)) (.object (ms ++ (some key, v) :: ns))) ∧
    (∀ field ∈ defaults, ∀ ms ns, (∀ m ∈ ms ++ ns, m.1 ≠ some field.1) →
      DecodedAlike (.object (ms ++ ns)) (.object (ms ++ (some field.1, field.2) :: ns))) ∧
    (∀ field ∈ defaults, ∀ ms ns ls v w s,
      (Value.object (ms ++ (some field.1, v) :: (ns ++ (some field.1, w) :: ls))).Written s →
        decode? s = none) ∧
    (∀ vs, vs.length ≤ 4 →
      DecodedAlike (.array vs) (.ofMembers ((defaults.map Prod.fst).zip vs))) ∧
    (∀ vs s, 4 < vs.length → (Value.array vs).Written s → decode? s = none) := by
  refine ⟨rfl, ?_, ?_, ?_, ?_, ?_, ?_, ?_⟩
  · intro v ts s t hf hs ht
    exact decodedAlike_of_eq rfl s t ⟨ts, hf, hs⟩ ⟨ts, hf, ht⟩
  · exact fun ms ns h => decodedAlike_of_eq (ofJson?_perm h)
  · exact fun ms ns key v h => decodedAlike_of_eq (ofJson?_insert v h).symm
  · exact fun field hf ms ns h => decodedAlike_of_eq (ofJson?_default hf h).symm
  · intro field hf ms ns ls v w s hs
    rw [decode?_of_written hs, ofJson?_twice hf]
  · exact fun vs h => decodedAlike_of_eq (ofJson?_array vs h)
  · intro vs s h hs
    rw [decode?_of_written hs, ofJson?_array_of_lt h]

theorem decoded_by_known_keys_of_capacity :
    decode? "\x7b\"max_messages\":5\x7d" = decode? " \x7b \"max_messages\" :5\x7d\n" ∧
    decode? "\x7b\"max_messages\":5,\"policy\":\"all\"\x7d" =
      decode? "\x7b\"policy\":\"all\",\"max_messages\":5\x7d" ∧
    decode? "\x7b\"max_messages\":5\x7d" =
      decode? "\x7b\"new\":[\x7b\"policy\":0\x7d],\"max_messages\":5\x7d" ∧
    decode? "\x7b\"max_messages\":5\x7d" =
      decode? "\x7b\"max_messages\":5,\"policy\":\"diagnostics_only\"\x7d" ∧
    decode? "\x7b\"policy\":\"all\",\"new\":0,\"p\\u006flicy\":\"all\"\x7d" = none ∧
    decode? "[null,\"! \"]" = decode? "\x7b\"log_prefix\":null,\"error_prefix\":\"! \"\x7d" ∧
    decode? "[null,null,5,\"all\",0]" = none := by
  obtain ⟨-, hlayout, hperm, hinsert, hdefault, htwice, harray, hlong⟩ := decoded_by_known_keys
  refine ⟨?_, ?_, ?_, ?_, ?_, ?_, ?_⟩
  · exact hlayout (.object [(some "max_messages", .number ['5'])]) _ _ _
      (Value.ofTokens?_eq_some_iff.mp rfl) (laidOut_of_scan? rfl) (laidOut_of_scan? rfl)
  · exact hperm [(some "max_messages", .number ['5']), (some "policy", .ofText "all")] _ (.swap _ _ _)
      _ _ (Value.read?_eq_some_iff.mp rfl) (Value.read?_eq_some_iff.mp rfl)
  · exact hinsert [] [(some "max_messages", .number ['5'])] "new"
      (.array [.object [(some "policy", .number ['0'])]]) (by decide) _ _
      (Value.read?_eq_some_iff.mp rfl) (Value.read?_eq_some_iff.mp rfl)
  · exact hdefault ("policy", .ofText "diagnostics_only") (by simp [defaults])
      [(some "max_messages", .number ['5'])] [] (by simp) _ _
      (Value.read?_eq_some_iff.mp rfl) (Value.read?_eq_some_iff.mp rfl)
  · exact htwice ("policy", .ofText "diagnostics_only") (by simp [defaults]) []
      [(some "new", .number ['0'])] [] (.ofText "all") (.ofText "all") _
      (Value.read?_eq_some_iff.mp rfl)
  · exact harray [.null, .ofText "! "] (by decide) _ _
      (Value.read?_eq_some_iff.mp rfl) (Value.read?_eq_some_iff.mp rfl)
  · exact hlong [.null, .null, .number ['5'], .ofText "all", .number ['0']] _ (by decide)
      (Value.read?_eq_some_iff.mp rfl)

end HostSettings

end Logbook

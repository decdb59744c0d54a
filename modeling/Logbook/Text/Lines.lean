namespace Logbook.Text

def endsLine (text : String) : Bool :=
  text.toList.getLast? == some '\n'

def withoutFinalNewlines (text : String) : String :=
  String.ofList (text.toList.reverse.dropWhile (· == '\n')).reverse

end Logbook.Text

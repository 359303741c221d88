import SetupScript.Script.Escape
import SetupScript.Text.Blank

/-!
# Program arguments

The arguments that a script starts a program with: words separated by single spaces, in one
quoted value. A word that is empty or holds a blank is quoted itself.
-/

namespace SetupScript.Script

def word (cs : List Char) : List Char :=
  if cs.isEmpty || cs.any Text.isBlank then '"' :: cs ++ ['"'] else cs

def commandLine (args : List (List Char)) : List Char :=
  [' '].intercalate (args.map word)

def quotedArguments (args : List String) : String :=
  String.ofList ('"' :: (commandLine (args.map String.toList)).flatMap doubleQuote ++ ['"'])

end SetupScript.Script

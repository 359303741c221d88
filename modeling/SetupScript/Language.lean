import SetupScript.Failure
import SetupScript.Text.Case

/-!
# Installer languages

The languages that the script compiler has messages for, and the selection of some of them by
name. `Language.select` keeps the order of first mention and mentions each language once.
-/

namespace SetupScript

inductive Language where
  | english
  | armenian
  | brazilianPortuguese
  | bulgarian
  | catalan
  | corsican
  | czech
  | danish
  | dutch
  | finnish
  | french
  | german
  | hebrew
  | hungarian
  | icelandic
  | italian
  | japanese
  | norwegian
  | polish
  | portuguese
  | russian
  | slovak
  | slovenian
  | spanish
  | turkish
  | ukrainian
deriving DecidableEq

namespace Language

def all : List Language :=
  [.english, .armenian, .brazilianPortuguese, .bulgarian, .catalan, .corsican, .czech, .danish,
    .dutch, .finnish, .french, .german, .hebrew, .hungarian, .icelandic, .italian, .japanese,
    .norwegian, .polish, .portuguese, .russian, .slovak, .slovenian, .spanish, .turkish,
    .ukrainian]

def title : Language → String
  | .english => "English"
  | .armenian => "Armenian"
  | .brazilianPortuguese => "Brazilian Portuguese"
  | .bulgarian => "Bulgarian"
  | .catalan => "Catalan"
  | .corsican => "Corsican"
  | .czech => "Czech"
  | .danish => "Danish"
  | .dutch => "Dutch"
  | .finnish => "Finnish"
  | .french => "French"
  | .german => "German"
  | .hebrew => "Hebrew"
  | .hungarian => "Hungarian"
  | .icelandic => "Icelandic"
  | .italian => "Italian"
  | .japanese => "Japanese"
  | .norwegian => "Norwegian"
  | .polish => "Polish"
  | .portuguese => "Portuguese"
  | .russian => "Russian"
  | .slovak => "Slovak"
  | .slovenian => "Slovenian"
  | .spanish => "Spanish"
  | .turkish => "Turkish"
  | .ukrainian => "Ukrainian"

/-- The name that the descriptor and the script use. -/
def locale : Language → String
  | .english => "english"
  | .armenian => "armenian"
  | .brazilianPortuguese => "brazilianportuguese"
  | .bulgarian => "bulgarian"
  | .catalan => "catalan"
  | .corsican => "corsican"
  | .czech => "czech"
  | .danish => "danish"
  | .dutch => "dutch"
  | .finnish => "finnish"
  | .french => "french"
  | .german => "german"
  | .hebrew => "hebrew"
  | .hungarian => "hungarian"
  | .icelandic => "icelandic"
  | .italian => "italian"
  | .japanese => "japanese"
  | .norwegian => "norwegian"
  | .polish => "polish"
  | .portuguese => "portuguese"
  | .russian => "russian"
  | .slovak => "slovak"
  | .slovenian => "slovenian"
  | .spanish => "spanish"
  | .turkish => "turkish"
  | .ukrainian => "ukrainian"

/-- The message file, where the compiler looks for it. -/
def messagesFile : Language → String
  | .english => "compiler:Default.isl"
  | .armenian => "compiler:Languages\\Armenian.isl"
  | .brazilianPortuguese => "compiler:Languages\\BrazilianPortuguese.isl"
  | .bulgarian => "compiler:Languages\\Bulgarian.isl"
  | .catalan => "compiler:Languages\\Catalan.isl"
  | .corsican => "compiler:Languages\\Corsican.isl"
  | .czech => "compiler:Languages\\Czech.isl"
  | .danish => "compiler:Languages\\Danish.isl"
  | .dutch => "compiler:Languages\\Dutch.isl"
  | .finnish => "compiler:Languages\\Finnish.isl"
  | .french => "compiler:Languages\\French.isl"
  | .german => "compiler:Languages\\German.isl"
  | .hebrew => "compiler:Languages\\Hebrew.isl"
  | .hungarian => "compiler:Languages\\Hungarian.isl"
  | .icelandic => "compiler:Languages\\Icelandic.isl"
  | .italian => "compiler:Languages\\Italian.isl"
  | .japanese => "compiler:Languages\\Japanese.isl"
  | .norwegian => "compiler:Languages\\Norwegian.isl"
  | .polish => "compiler:Languages\\Polish.isl"
  | .portuguese => "compiler:Languages\\Portuguese.isl"
  | .russian => "compiler:Languages\\Russian.isl"
  | .slovak => "compiler:Languages\\Slovak.isl"
  | .slovenian => "compiler:Languages\\Slovenian.isl"
  | .spanish => "compiler:Languages\\Spanish.isl"
  | .turkish => "compiler:Languages\\Turkish.isl"
  | .ukrainian => "compiler:Languages\\Ukrainian.isl"

/-- The line of the script that brings the language in. -/
def entry (l : Language) : String :=
  "Name: \"" ++ l.locale ++ "\"; MessagesFile: \"" ++ l.messagesFile ++ "\""

/-- Blanks around the name and the case of its letters do not count. -/
def ofText? (s : String) : Option Language :=
  all.find? (·.locale == Text.toLower (Text.strip s))

def ofValue? (v : Value) : Option Language := v.text?.bind ofText?

/-- Adds a language at the end, unless it is there. -/
def addOnce (ls : List Language) (l : Language) : List Language :=
  if ls.contains l then ls else ls ++ [l]

/-- Reads names one after the other, after the languages found before. -/
def selectAfter (found : List Language) : List Value → Except Refusal (List Language)
  | [] => .ok found
  | v :: vs =>
    match ofValue? v with
    | none => .error (.unsupportedLanguage v)
    | some l => selectAfter (addOnce found l) vs

/-- No names select every language. -/
def select (names : List Value) : Except Refusal (List Language) :=
  if names.isEmpty then .ok all else selectAfter [] names

/-- Selects by whatever yields names; a value that is nothing selects every language. -/
def selectFrom (v : Value) : Except Failure (List Language) :=
  if v.isNothing then .ok all
  else match v.items? with
    | none => .error (.defect .notItems)
    | some names => (select names).mapError .ofRefusal

end Language

end SetupScript

/-!
# Patterns

Regular patterns of texts. `Pattern.after` is what a pattern asks of the rest once its first
character is taken, and `Pattern.accepts` takes the characters one by one. `either` and `andThen`
drop what cannot match, so that patterns stay small on the way.
-/

namespace SetupScript.Text

inductive Pattern where
  | never
  | nothing
  | one (p : Char → Bool)
  | either (a b : Pattern)
  | andThen (a b : Pattern)
  | many (a : Pattern)

namespace Pattern

/-- Whether the empty text matches. -/
def optional : Pattern → Bool
  | never => false
  | nothing => true
  | one _ => false
  | either a b => a.optional || b.optional
  | andThen a b => a.optional && b.optional
  | many _ => true

def eitherOf : Pattern → Pattern → Pattern
  | never, b => b
  | a, never => a
  | a, b => either a b

def inOrder : Pattern → Pattern → Pattern
  | never, _ => never
  | _, never => never
  | nothing, b => b
  | a, nothing => a
  | a, b => andThen a b

/-- What has to follow once `c` is taken. -/
def after (c : Char) : Pattern → Pattern
  | never => never
  | nothing => never
  | one p => if p c then nothing else never
  | either a b => eitherOf (a.after c) (b.after c)
  | andThen a b =>
    let r := inOrder (a.after c) b
    if a.optional then eitherOf r (b.after c) else r
  | many a => inOrder (a.after c) (many a)

/-- Whether the whole text matches. -/
def accepts (p : Pattern) : List Char → Bool
  | [] => p.optional
  | c :: cs => (p.after c).accepts cs

def char (c : Char) : Pattern := one (· == c)

/-- One of the characters of a text. -/
def oneOf (s : String) : Pattern := one s.toList.contains

def word (s : String) : Pattern := s.toList.foldr (fun c p => inOrder (char c) p) nothing

def anyOf (ps : List Pattern) : Pattern := ps.foldr eitherOf never

def inTurn (ps : List Pattern) : Pattern := ps.foldr inOrder nothing

def maybe (a : Pattern) : Pattern := eitherOf a nothing

def oneOrMore (a : Pattern) : Pattern := inOrder a (many a)

def between (first last : Char) : Pattern := one fun c => first ≤ c && c ≤ last

end Pattern

end SetupScript.Text

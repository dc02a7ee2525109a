import YamlOrder.Shield.Pattern

/-!
This module contains the substitutions that hide parts of a document behind plain words while it is
transformed, and that put them back afterwards. The shield of a document is all that are enabled,
one after the other.
-/

namespace YamlOrder

/-- A token and the text it stands for. -/
structure Substitute where
  token : Text
  value : Text
  deriving DecidableEq, Repr

/-- A pattern with the tokens given out so far. -/
structure Substitution where
  kind : Text
  pattern : Pattern
  store : List Substitute := []
  next : Nat := 0

namespace Substitution

/-- Every token starts with this word. -/
def namespaceWord : Text := "yamlsort"

/-- The tokens of a kind start with this text. -/
def tokenStart (kind : Text) : Text := namespaceWord ++ [46] ++ kind ++ [46]

/-- The token with a number. -/
def token (kind : Text) (n : Nat) : Text := tokenStart kind ++ Text.ofNat n

/--
The first number from `n` on whose token does not occur in the text. A text of length `l` has at
most `l * l` different pieces, so that many attempts and one more are enough.
-/
def freeNumber (kind text : Text) (n : Nat) : Nat :=
  go (text.length * text.length) n
where
  go : Nat → Nat → Nat
    | 0, n => n
    | fuel + 1, n => if Text.occursIn (token kind n) text then go fuel (n + 1) else n

/-- Hide the first occurrence of a match behind a fresh token. -/
def hide (s : Substitution) (text found : Text) : Substitution × Text :=
  let n := freeNumber s.kind text s.next
  let token := token s.kind n
  ({ s with store := s.store ++ [⟨token, found⟩], next := n + 1 },
    Text.replaceFirst found token text)

/-- Hide every match of the pattern behind a token of its own, in order. -/
def shield (s : Substitution) (text : Text) : Substitution × Text :=
  (s.pattern.findAll text).foldl (fun (s, text) found => s.hide text found) (s, text)

/-- Whether a text starts with a stored token that is longer than `token`. -/
def startsLonger (s : Substitution) (token text : Text) : Bool :=
  s.store.any fun sub => token.length < sub.token.length && sub.token.isPrefixOf text

/-- The offset of the first occurrence of a token that is not the start of a longer one. -/
def findToken? (s : Substitution) (token text : Text) : Option Nat :=
  go text 0
where
  /-- `skip` counts the bytes of a longer token's start that must not be looked at. -/
  go : Text → Nat → Option Nat
    | [], _ => if token.isEmpty then some 0 else none
    | _ :: t, skip + 1 => (go t skip).map (· + 1)
    | b :: t, 0 =>
      if token.isPrefixOf (b :: t) then
        if s.startsLonger token (b :: t) then (go t (token.length - 1)).map (· + 1) else some 0
      else
        (go t 0).map (· + 1)

/-- Put the text of one token back, if the token can be found. -/
def restoreOne (s : Substitution) (text : Text) (sub : Substitute) : Text :=
  match s.findToken? sub.token text with
  | some i => text.take i ++ sub.value ++ text.drop (i + sub.token.length)
  | none => text

/-- Put the texts of all tokens back, in the order in which they were hidden. -/
def restore (s : Substitution) (text : Text) : Text :=
  s.store.foldl s.restoreOne text

/-- The tokens that cannot be found while they are put back. -/
def lost (s : Substitution) (text : Text) : List Text :=
  go s.store text
where
  go : List Substitute → Text → List Text
    | [], _ => []
    | sub :: rest, text =>
      let later := go rest (s.restoreOne text sub)
      if (s.findToken? sub.token text).isSome then later else sub.token :: later

def array : Substitution := { kind := "array", pattern := .array }
def helm : Substitution := { kind := "helm", pattern := .helm }
def octal : Substitution := { kind := "octal", pattern := .octal }

end Substitution

/-- The substitutions of a document, in the order in which they hide. -/
structure Shield where
  substitutions : List Substitution

namespace Shield

/-- Template expressions are hidden first, then inline sequences, then octal numbers. -/
def ofFlags (helm array octal : Bool) : Shield where
  substitutions :=
    (if helm then [Substitution.helm] else []) ++
    (if array then [Substitution.array] else []) ++
    (if octal then [Substitution.octal] else [])

def kinds (s : Shield) : List Text := s.substitutions.map (·.kind)

/-- Hide with every substitution in turn. -/
def shield (s : Shield) (text : Text) : Shield × Text :=
  let (subs, text) := go s.substitutions text
  (⟨subs⟩, text)
where
  go : List Substitution → Text → List Substitution × Text
    | [], text => ([], text)
    | s :: rest, text =>
      let (s, text) := s.shield text
      let (rest, text) := go rest text
      (s :: rest, text)

/-- Put everything back, the last substitution first. -/
def restore (s : Shield) (text : Text) : Text :=
  s.substitutions.foldr (fun s text => s.restore text) text

end Shield
end YamlOrder

import Mathlib.Data.List.DropRight
import Mathlib.Data.Nat.Basic

/-! # Relative URL references in a browser

How a browser resolves a reference without a scheme against an http or https URL, as far
as the origin of the result goes. Tabs and newlines are dropped wherever they are and a
backslash counts as a slash; two of these at the front begin an authority. What a host
text stands for is left to `parseHost`. -/

namespace UrlReference

inductive Scheme
  | http | https
deriving DecidableEq

def Scheme.defaultPort : Scheme → Nat
  | .http => 80
  | .https => 443

/-- `port` is `none` for the default port. -/
structure Origin (Host : Type*) where
  scheme : Scheme
  host : Host
  port : Option Nat
deriving DecidableEq

def isTabOrNewline (c : Char) : Bool := c == '\t' || c == '\n' || c == '\r'

def isC0OrSpace (c : Char) : Bool := decide (c.toNat ≤ 0x20)

def isSlash (c : Char) : Bool := c == '/' || c == '\\'

/-- The authority state stops here. -/
def endsAuthority (c : Char) : Bool := isSlash c || c == '?' || c == '#'

/-- What the parser removes first. -/
def strip (input : List Char) : List Char :=
  ((input.dropWhile isC0OrSpace).rdropWhile isC0OrSpace).filter (!isTabOrNewline ·)

/-- The buffer of the authority state at its end: what follows the last at sign. -/
def afterCredentials (text : List Char) : List Char :=
  text.foldl (fun buffer c => if c = '@' then [] else buffer ++ [c]) []

def decimal (digits : List Char) : Nat :=
  digits.foldl (fun value digit => value * 10 + (digit.toNat - 48)) 0

section Parser

variable {Host : Type*} (parseHost : List Char → Option Host)

/-- The port state, up to the end of the authority. -/
def portState (scheme : Scheme) (host : Host) (text : List Char) : Option (Origin Host) :=
  if !text.all Char.isDigit then none
  else if text = [] then some ⟨scheme, host, none⟩
  else if 65535 < decimal text then none
  else some ⟨scheme, host, if decimal text = scheme.defaultPort then none else some (decimal text)⟩

/-- The host state with its buffer, up to the end of the authority. -/
def hostState (scheme : Scheme) (insideBrackets : Bool) (buffer : List Char) :
    List Char → Option (Origin Host)
  | [] =>
      if buffer = [] then none
      else (parseHost buffer).map fun host => ⟨scheme, host, none⟩
  | c :: rest =>
      if c = ':' ∧ insideBrackets = false then
        if buffer = [] then none
        else (parseHost buffer).bind fun host => portState scheme host rest
      else
        hostState scheme (if c = '[' then true else if c = ']' then false else insideBrackets)
          (buffer ++ [c]) rest

/-- The origin that an authority names, `none` where the parser fails. -/
def authority (scheme : Scheme) (text : List Char) : Option (Origin Host) :=
  hostState parseHost scheme false [] (afterCredentials text)

/-- The text of the authority behind any number of slashes. -/
def authorityText (input : List Char) : List Char :=
  (input.dropWhile isSlash).takeWhile (!endsAuthority ·)

/-- The relative slash state, behind the first slash. -/
def relativeSlash (base : Origin Host) : List Char → Option (Origin Host)
  | [] => some base
  | c :: rest =>
      if isSlash c then authority parseHost base.scheme (authorityText rest) else some base

/-- The origin of a reference that does not begin with a scheme. -/
def resolve (base : Origin Host) (reference : List Char) : Option (Origin Host) :=
  match strip reference with
  | [] => some base
  | c :: rest => if isSlash c then relativeSlash parseHost base rest else some base

end Parser

/-- The parser keeps a first slash. -/
theorem strip_slash (rest : List Char) :
    strip ('/' :: rest) = '/' :: (rest.rdropWhile isC0OrSpace).filter (!isTabOrNewline ·) := by
  have kept : ('/' :: rest).rdropWhile isC0OrSpace = '/' :: rest.rdropWhile isC0OrSpace := by
    rw [List.rdropWhile, List.rdropWhile, List.reverse_cons, List.dropWhile_append]
    by_cases blank : (rest.reverse.dropWhile isC0OrSpace).isEmpty = true
    · rw [if_pos blank, List.isEmpty_iff.mp blank]
      rfl
    · rw [if_neg blank, List.reverse_append]
      rfl
  rw [strip, List.dropWhile_cons, if_neg (by decide), kept, List.filter_cons_of_pos (by decide)]

/-- A slash is no control character and no space. -/
theorem blank_of_slash {c : Char} (slash : isSlash c = true) : isC0OrSpace c = false := by
  rw [isSlash, Bool.or_eq_true, beq_iff_eq, beq_iff_eq] at slash
  rcases slash with rfl | rfl <;> rfl

/-- No slash is among the blanks that are removed at the end. -/
theorem find?_rdropWhile {rest : List Char} {c : Char} (slash : isSlash c = true) :
    (rest.rdropWhile isC0OrSpace).find? (!isTabOrNewline ·) = some c ↔
      rest.find? (!isTabOrNewline ·) = some c := by
  have parts : rest.rdropWhile isC0OrSpace ++ rest.rtakeWhile isC0OrSpace = rest :=
    List.rdropWhile_append_rtakeWhile
  have found := congrArg (List.find? (!isTabOrNewline ·)) parts
  rw [List.find?_append] at found
  rw [← found, Option.or_eq_some_iff]
  constructor
  · exact .inl
  · rintro (kept | ⟨-, removed⟩)
    · exact kept
    · have blank := List.mem_rtakeWhile_imp (List.mem_of_find?_eq_some removed)
      exact absurd (blank_of_slash slash) (by rw [blank]; exact Bool.noConfusion)

/-- The origin is the base's unless another slash follows the first one. -/
theorem resolve_slash {Host : Type*} (parseHost : List Char → Option Host) (base : Origin Host)
    (rest : List Char) :
    resolve parseHost base ('/' :: rest) =
      if (rest.find? (!isTabOrNewline ·)).any isSlash then
        authority parseHost base.scheme (authorityText (strip ('/' :: rest)))
      else some base := by
  rw [resolve, strip_slash]
  dsimp only
  rw [if_pos (by rfl)]
  have first : ((rest.rdropWhile isC0OrSpace).filter (!isTabOrNewline ·)).head? =
      (rest.rdropWhile isC0OrSpace).find? (!isTabOrNewline ·) := List.head?_filter
  cases kept : (rest.rdropWhile isC0OrSpace).filter (!isTabOrNewline ·) with
  | nil =>
      rw [kept] at first
      rw [if_neg]
      · rfl
      · intro follows
        obtain ⟨c, found, slash⟩ := (Option.any_eq_true _ _).mp follows
        rw [(find?_rdropWhile slash).mpr found] at first
        cases first
  | cons c tail =>
      rw [kept] at first
      by_cases slash : isSlash c = true
      · rw [if_pos, relativeSlash, if_pos slash, authorityText, authorityText,
          List.dropWhile_cons_of_pos (by rfl), List.dropWhile_cons_of_pos slash]
        exact (Option.any_eq_true _ _).mpr ⟨c, (find?_rdropWhile slash).mp first.symm, slash⟩
      · rw [if_neg, relativeSlash, if_neg slash]
        intro follows
        obtain ⟨other, found, isOther⟩ := (Option.any_eq_true _ _).mp follows
        rw [(find?_rdropWhile isOther).mpr found] at first
        exact slash (Option.some.inj first ▸ isOther)

end UrlReference

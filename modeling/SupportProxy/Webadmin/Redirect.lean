import SupportProxy.Library.UrlReference

/-! # The redirect after a login

`_is_safe_local_redirect` of `auth.py` looks at the first two characters of the target
and at what `urlparse` finds in it. A tab between the first two slashes is one that
neither of them counts as a slash and that the browser drops. -/

namespace SupportProxy.Webadmin

open UrlReference

/-- The fields of a `ParseResult` that the check reads. -/
structure ParseResult where
  scheme : List Char
  netloc : List Char
deriving DecidableEq

/-- `scheme_chars` -/
def isSchemeChar (c : Char) : Bool := c.isAlphanum || c == '+' || c == '-' || c == '.'

/-- The scheme in front of the first colon, if that is what it is, and the rest. -/
def splitScheme (url : List Char) : List Char × List Char :=
  let before := url.takeWhile (· != ':')
  if before.length < url.length ∧ before.head?.any Char.isAlpha = true ∧
      before.all isSchemeChar = true then
    (before.map Char.toLower, url.drop (before.length + 1))
  else ([], url)

/-- `_splitnetloc(url, 2)` -/
def splitNetloc (url : List Char) : List Char :=
  (url.drop 2).takeWhile fun c => !(c == '/' || c == '?' || c == '#')

/-- `urlparse`, which raises an exception for a netloc that its checks find invalid. -/
def urlparse (valid : List Char → Bool) (url : List Char) : Option ParseResult :=
  let url := (url.dropWhile isC0OrSpace).filter (!isTabOrNewline ·)
  let (scheme, url) := splitScheme url
  if ['/', '/'] <+: url then
    let netloc := splitNetloc url
    if netloc ≠ [] ∧ valid netloc = false then none else some ⟨scheme, netloc⟩
  else some ⟨scheme, []⟩

/-- `_is_safe_local_redirect` -/
def isSafeLocalRedirect (valid : List Char → Bool) : Option (List Char) → Option Bool
  | none => some false
  | some target =>
      if target = [] ∨ ¬['/'] <+: target then some false
      else if ['/', '/'] <+: target ∨ ['/', '\\'] <+: target then some false
      else (urlparse valid target).map fun parsed =>
        decide (parsed.scheme = []) && decide (parsed.netloc = [])

/-- Accepted, without an exception. -/
def Accepted (valid : List Char → Bool) (target : List Char) : Prop :=
  isSafeLocalRedirect valid (some target) = some true

instance (valid : List Char → Bool) (target : List Char) : Decidable (Accepted valid target) :=
  inferInstanceAs (Decidable (_ = _))

/-- An accepted target begins with one slash, and `urlparse` finds no netloc in it. -/
theorem Accepted.shape {valid : List Char → Bool} {target : List Char}
    (accepted : Accepted valid target) :
    ∃ rest, target = '/' :: rest ∧ rest.head?.any isSlash = false ∧
      urlparse valid target = some ⟨[], []⟩ := by
  rw [Accepted, isSafeLocalRedirect] at accepted
  split_ifs at accepted with outside twice
  · cases accepted
  · cases accepted
  · obtain ⟨⟨scheme, netloc⟩, parsed, empty⟩ := Option.map_eq_some_iff.mp accepted
    rw [Bool.and_eq_true, decide_eq_true_iff, decide_eq_true_iff] at empty
    obtain ⟨rfl, rfl⟩ := empty
    obtain ⟨-, begins⟩ := not_or.mp outside
    obtain ⟨rest, rfl⟩ := not_not.mp begins
    obtain ⟨noSlash, noBackslash⟩ := not_or.mp twice
    refine ⟨rest, rfl, ?_, parsed⟩
    cases rest with
    | nil => rfl
    | cons second tail =>
        rw [List.head?_cons, Option.any_some, isSlash, Bool.or_eq_false_iff, beq_eq_false_iff_ne,
          beq_eq_false_iff_ne]
        refine ⟨?_, ?_⟩
        · rintro rfl
          exact noSlash ⟨tail, rfl⟩
        · rintro rfl
          exact noBackslash ⟨tail, rfl⟩

/-- What follows the first slash is no second one for the browser, or an authority that is
the site's own. -/
def StaysLocal {Host : Type*} (parseHost : List Char → Option Host) (site : Origin Host)
    (target : List Char) : Prop :=
  (target.tail.find? (!isTabOrNewline ·)).any isSlash = true →
    authority parseHost site.scheme (authorityText (strip target)) = some site

variable {Host : Type*} {parseHost : List Char → Option Host} {site : Origin Host}
  {valid : List Char → Bool} {target : List Char}

/-- **An accepted target stays on the site** exactly where the browser sees one slash at its
front, or more and then the site itself. -/
theorem redirect_iff (accepted : Accepted valid target) :
    resolve parseHost site target = some site ↔ StaysLocal parseHost site target := by
  obtain ⟨rest, rfl, -, -⟩ := accepted.shape
  rw [resolve_slash, StaysLocal, List.tail_cons]
  split_ifs with follows
  · exact ⟨fun named _ => named, fun stays => stays follows⟩
  · exact ⟨fun _ taken => absurd taken follows, fun _ => rfl⟩

/-- The path that a login usually goes on to. -/
theorem redirect_iff_me :
    resolve some ⟨.https, "proxy.example".toList, none⟩ "/me/".toList =
        some ⟨.https, "proxy.example".toList, none⟩ ↔
      StaysLocal some ⟨.https, "proxy.example".toList, none⟩ "/me/".toList :=
  redirect_iff (show Accepted (fun _ => true) "/me/".toList by decide)

/-- Without tabs and newlines the test of the first two characters is the browser's. -/
theorem redirect_of_plain (accepted : Accepted valid target)
    (plain : ∀ c ∈ target, isTabOrNewline c = false) :
    resolve parseHost site target = some site := by
  obtain ⟨rest, rfl, single, -⟩ := accepted.shape
  have first : rest.find? (!isTabOrNewline ·) = rest.head? := by
    cases rest with
    | nil => rfl
    | cons second tail =>
        have kept := plain second (List.mem_cons_of_mem _ List.mem_cons_self)
        rw [List.find?_cons_of_pos (by rw [kept]; rfl), List.head?_cons]
  rw [resolve_slash, first, single]
  rfl

/-- A tab hides the second slash. -/
def hidden (host : List Char) : List Char := '/' :: '\t' :: '/' :: '/' :: host

/-- The tab is dropped by the browser, and the target is another site. -/
theorem redirect_hidden :
    Accepted (fun _ => true) (hidden "evil.example".toList) ∧
      resolve some ⟨.https, "proxy.example".toList, none⟩ (hidden "evil.example".toList) =
        some ⟨.https, "evil.example".toList, none⟩ ∧
      resolve some ⟨.https, "proxy.example".toList, none⟩ (hidden "evil.example".toList) ≠
        some ⟨.https, "proxy.example".toList, none⟩ := by
  decide

end SupportProxy.Webadmin

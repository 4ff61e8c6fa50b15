import Mathlib.Data.List.Lex
import Mathlib.Data.Sum.Order
import SupportProxy.Library.Utf8
import SupportProxy.Logs.Cleanup
import SupportProxy.Logs.CleanupPass
import SupportProxy.Logs.Freshness

/-! # The names of session files

The writers format the names of their files with `snprintf`, `next_session_n` reads them with
`sscanf`, the cleanup worker looks at their ends, and `logs.py` matches them against regular
expressions. What they all make of a name that a writer formats is `Recognized`. -/

namespace SupportProxy.LogTree

/-! ## The writers -/

def extensionText : Extension → List Char
  | .tlog => ['.', 't', 'l', 'o', 'g']
  | .bin => ['.', 'b', 'i', 'n']

/-- `session%u.tlog` and `session%u.bin` -/
def sessionText (n : Nat) (extension : Extension) : List Char :=
  ['s', 'e', 's', 's', 'i', 'o', 'n'] ++ Nat.toDigits 10 n ++ extensionText extension

/-- `%0*d` of a number that is not negative. -/
def padded (width number : Nat) : List Char :=
  List.replicate (width - (Nat.toDigits 10 number).length) '0' ++ Nat.toDigits 10 number

/-- `%04d-%02d-%02d` -/
def dateText (year month day : Nat) : List Char :=
  padded 4 year ++ '-' :: (padded 2 month ++ '-' :: padded 2 day)

/-- A name as it is on the disk. -/
def sessionName (n : Nat) (extension : Extension) : Name := Utf8.encode (sessionText n extension)

def dateName (year month day : Nat) : Name := Utf8.encode (dateText year month day)

/-! ## next_session_n -/

/-- The characters of the C string. -/
def cString (name : Name) : List Char := name.map fun byte => Char.ofNat byte.toNat

/-- `isspace` -/
def isSpace (char : Char) : Bool := char = ' ' || (9 ≤ char.toNat && char.toNat ≤ 13)

/-- `strtoul` of a run of digits behind a sign. -/
def strtoul (negative : Bool) (digits : List Char) : Nat :=
  let number := Nat.ofDigitChars 10 digits 0
  if 2 ^ 64 ≤ number then 2 ^ 64 - 1
  else if negative then (2 ^ 64 - number) % 2 ^ 64
  else number

/-- A sign, true for a minus, and the text behind it. -/
def takeSign : List Char → Bool × List Char
  | '-' :: rest => (true, rest)
  | '+' :: rest => (false, rest)
  | text => (false, text)

/-- The conversion `%u`, none where it fails. -/
def scanUnsigned (text : List Char) : Option Nat :=
  let (negative, text) := takeSign (text.dropWhile isSpace)
  match text.takeWhile Char.isDigit with
  | [] => none
  | digits => some (strtoul negative digits % 2 ^ 32)

/-- `sscanf(name, "session%u.tlog", &n) == 1`. What comes behind the number makes no
difference, so that it is `sscanf(name, "session%u.bin", &n) == 1` as well. -/
def scanSession (name : Name) : Option Nat :=
  (['s', 'e', 's', 's', 'i', 'o', 'n'].isPrefixOf? (cString name)).bind scanUnsigned

/-- `next_session_n` on the names in the directory. -/
def nextSessionNumber (names : List Name) : Nat := nextSessionN (some (names.filterMap scanSession))

/-! ## logs.py -/

/-- The decimal digits of the Unicode database with their values. -/
structure DigitTable where
  decimal : Char → Option Nat
  ascii : ∀ char : Char, char.toNat < 128 →
    decimal char = if char.isDigit then some (char.toNat - '0'.toNat) else none

namespace DigitTable

variable (table : DigitTable)

/-- `\d` -/
def isDecimal (char : Char) : Bool := (table.decimal char).isSome

/-- `int` of a run of decimal digits. -/
def number (digits : List Char) : Nat :=
  digits.foldl (fun total char => 10 * total + (table.decimal char).getD 0) 0

/-- `$`, which also matches before a newline at the end. -/
def atEnd (text : List Char) : Bool := text = [] || text = ['\n']

/-- `\d{count}`, the text behind it. -/
def dropDecimals : Nat → List Char → Option (List Char)
  | 0, text => some text
  | _ + 1, [] => none
  | count + 1, char :: rest => if table.isDecimal char then dropDecimals count rest else none

/-- A literal character, the text behind it. -/
def dropChar (char : Char) : List Char → Option (List Char)
  | [] => none
  | first :: rest => if first = char then some rest else none

/-- `DATE_RE` -/
def matchesDate (text : List Char) : Bool :=
  ((((table.dropDecimals 4 text).bind (dropChar '-')).bind (table.dropDecimals 2)).bind
    (dropChar '-')).bind (table.dropDecimals 2) |>.any atEnd

/-- `SESSION_RE` -/
def matchesSession (text : List Char) : Bool :=
  match ['s', 'e', 's', 's', 'i', 'o', 'n'].isPrefixOf? text with
  | none => false
  | some text =>
      text.takeWhile table.isDecimal ≠ [] &&
        [Extension.tlog, .bin].any fun extension =>
          ((extensionText extension).isPrefixOf? (text.dropWhile table.isDecimal)).any atEnd

/-- `_NATKEY_RE.split`: the text before the first number, and each number with the text behind
it. -/
def splitNumbers : List Char → List Char × List (List Char × List Char)
  | [] => ([], [])
  | char :: rest =>
      match table.isDecimal char, splitNumbers rest with
      | false, (lead, runs) => (char :: lead, runs)
      | true, ([], (digits, behind) :: runs) => ([], (char :: digits, behind) :: runs)
      | true, (lead, runs) => ([], ([char], lead) :: runs)

/-- `_natural_key`, in whose lists numbers and texts alternate. -/
def naturalKey (name : List Char) : List (Lex (Nat ⊕ List Char)) :=
  let (lead, runs) := table.splitNumbers name
  toLex (.inr (lead.map Char.toLower)) :: runs.flatMap fun run =>
    [toLex (.inl (table.number run.1)), toLex (.inr (run.2.map Char.toLower))]

end DigitTable

/-! ## ASCII -/

def IsAscii (text : List Char) : Prop := ∀ char ∈ text, char.toNat < 128

private theorem utf8EncodeChar_ascii {char : Char} (ascii : char.toNat < 128) :
    String.utf8EncodeChar char = [UInt8.ofNat char.toNat] := by
  have small : char.val.toNat ≤ 127 := Nat.le_of_lt_succ ascii
  rw [String.utf8EncodeChar, if_pos small]
  rfl

private theorem cString_encode {text : List Char} (ascii : IsAscii text) :
    cString (Utf8.encode text) = text := by
  induction text with
  | nil => rfl
  | cons char rest ih =>
      have small : char.toNat < 128 := ascii char List.mem_cons_self
      have same : (UInt8.ofNat char.toNat).toNat = char.toNat := by
        rw [UInt8.toNat_ofNat']
        omega
      have others := ih fun other member => ascii other (List.mem_cons_of_mem _ member)
      rw [cString] at others ⊢
      rw [Utf8.encode_cons, utf8EncodeChar_ascii small, List.singleton_append, List.map_cons,
        others, same, Char.ofNat_toNat]

private theorem isDigit_ascii {char : Char} (digit : char.isDigit = true) : char.toNat < 128 := by
  have below := (Char.isDigit_iff_toNat.mp digit).2
  have nine : '9'.toNat = 57 := rfl
  omega

/-- A character of a number is no other character that a name is made of. -/
theorem isDigit_ne {char : Char} (digit : char.isDigit = true) {other : Char}
    (plain : other.isDigit = false) : char ≠ other := by
  rintro rfl
  rw [digit] at plain
  cases plain

private theorem toDigits_isDigit (n : Nat) : ∀ char ∈ Nat.toDigits 10 n, char.isDigit = true :=
  fun _ member => Nat.isDigit_of_mem_toDigits (by decide) (by decide) member

private theorem IsAscii.append {front back : List Char} (first : IsAscii front)
    (second : IsAscii back) :
    IsAscii (front ++ back) := fun char member =>
  (List.mem_append.mp member).elim (first char) (second char)

private theorem extensionText_ascii (extension : Extension) :
    IsAscii (extensionText extension) := by
  intro char member
  cases extension <;>
  · simp only [extensionText, List.mem_cons, List.not_mem_nil, or_false] at member
    rcases member with rfl | rfl | rfl | rfl | rfl <;> decide

private theorem sessionText_ascii (n : Nat) (extension : Extension) :
    IsAscii (sessionText n extension) := by
  refine .append (.append ?_ ?_) (extensionText_ascii extension)
  · intro char member
    simp only [List.mem_cons, List.not_mem_nil, or_false] at member
    rcases member with rfl | rfl | rfl | rfl | rfl | rfl | rfl <;> decide
  · exact fun char member => isDigit_ascii (toDigits_isDigit n char member)

private theorem isPrefixOf?_append (front back : List Char) :
    front.isPrefixOf? (front ++ back) = some back :=
  List.isPrefixOf?_eq_some_iff_append_eq.mpr rfl

private theorem takeWhile_digits {digits rest : List Char} {isDigit : Char → Bool}
    (all : ∀ char ∈ digits, isDigit char = true) (stops : ∀ char, rest.head? = some char →
      isDigit char = false) : (digits ++ rest).takeWhile isDigit = digits := by
  rw [List.takeWhile_append_of_pos all]
  cases rest with
  | nil => rw [List.takeWhile_nil, List.append_nil]
  | cons char rest => rw [List.takeWhile_cons_of_neg (by simp [stops char rfl]), List.append_nil]

private theorem dropWhile_digits {digits rest : List Char} {isDigit : Char → Bool}
    (all : ∀ char ∈ digits, isDigit char = true) (stops : ∀ char, rest.head? = some char →
      isDigit char = false) : (digits ++ rest).dropWhile isDigit = rest := by
  rw [List.dropWhile_append_of_pos all]
  cases rest with
  | nil => rfl
  | cons char rest => rw [List.dropWhile_cons_of_neg (by simp [stops char rfl])]

/-! ## Reading a number back -/

private theorem isDigit_not_isSpace {char : Char} (digit : char.isDigit = true) :
    isSpace char = false := by
  have bounds := Char.isDigit_iff_toNat.mp digit
  have zero : '0'.toNat = 48 := rfl
  have blank : char ≠ ' ' := isDigit_ne digit rfl
  rw [isSpace, decide_eq_false blank, Bool.false_or, Bool.and_eq_false_iff]
  right
  rw [decide_eq_false_iff_not]
  omega

private theorem takeSign_digit {char : Char} (digit : char.isDigit = true) (rest : List Char) :
    takeSign (char :: rest) = (false, char :: rest) := by
  have minus : char ≠ '-' := isDigit_ne digit rfl
  have plus : char ≠ '+' := isDigit_ne digit rfl
  rw [takeSign.eq_def]
  split
  · exact absurd (List.cons.inj ‹_›).1 minus
  · exact absurd (List.cons.inj ‹_›).1 plus
  · rfl

private theorem scanUnsigned_toDigits {n : Nat} (small : n < 2 ^ 32) {rest : List Char}
    (stops : ∀ char, rest.head? = some char → char.isDigit = false) :
    scanUnsigned (Nat.toDigits 10 n ++ rest) = some n := by
  have digits := toDigits_isDigit n
  have whole := takeWhile_digits digits stops
  have value : Nat.ofDigitChars 10 (Nat.toDigits 10 n) 0 = n := Nat.ofDigitChars_ten_toDigits
  have plain : strtoul false (Nat.toDigits 10 n) % 2 ^ 32 = n := by
    rw [strtoul, value, if_neg (by omega), if_neg Bool.false_ne_true, Nat.mod_eq_of_lt small]
  cases split : Nat.toDigits 10 n with
  | nil => exact absurd split Nat.toDigits_ne_nil
  | cons first others =>
      rw [split] at digits whole plain
      have digit := digits first List.mem_cons_self
      have visible : isSpace first ≠ true := by
        rw [isDigit_not_isSpace digit]
        exact Bool.false_ne_true
      rw [scanUnsigned, List.cons_append, List.dropWhile_cons_of_neg visible, takeSign_digit digit,
        ← List.cons_append]
      dsimp only
      rw [whole]
      exact congrArg some plain

private theorem extensionText_stops (extension : Extension) (isDigit : Char → Bool)
    (dot : isDigit '.' = false) :
    ∀ char, (extensionText extension).head? = some char → isDigit char = false := by
  intro char head
  cases extension <;>
  · obtain rfl := Option.some.inj head
    exact dot

private theorem scanSession_sessionName {n : Nat} (small : n < 2 ^ 32) (extension : Extension) :
    scanSession (sessionName n extension) = some n := by
  rw [scanSession, sessionName, cString_encode (sessionText_ascii n extension), sessionText,
    List.append_assoc, isPrefixOf?_append, Option.bind_some]
  exact scanUnsigned_toDigits small (extensionText_stops extension _ rfl)

/-! ## What the cleanup worker sees -/

private theorem encode_extensionText (extension : Extension) :
    Utf8.encode (extensionText extension) =
      match extension with
      | .tlog => tlogExtension
      | .bin => binExtension := by
  cases extension <;> decide

private theorem isSessionFile_append {front : Name} (some_ : front ≠ []) (extension : Extension) :
    isSessionFile (front ++ Utf8.encode (extensionText extension)) = true := by
  have positive := List.length_pos_iff.mpr some_
  rw [encode_extensionText, isSessionFile, Bool.or_eq_true]
  cases extension with
  | tlog =>
      left
      have five : (front ++ tlogExtension).length = front.length + 5 := List.length_append
      rw [five, Nat.add_sub_cancel, List.drop_left, beq_self_eq_true, Bool.and_true,
        decide_eq_true_iff]
      omega
  | bin =>
      right
      have four : (front ++ binExtension).length = front.length + 4 := List.length_append
      rw [four, Nat.add_sub_cancel, List.drop_left, beq_self_eq_true, Bool.and_true,
        decide_eq_true_iff]
      omega

/-! ## What logs.py sees -/

namespace DigitTable

variable {table : DigitTable}

private theorem isDecimal_ascii {char : Char} (ascii : char.toNat < 128) :
    table.isDecimal char = char.isDigit := by
  rw [isDecimal, table.ascii char ascii]
  cases char.isDigit <;> rfl

private theorem number_ascii {digits : List Char} (all : ∀ char ∈ digits, char.isDigit = true) :
    table.number digits = Nat.ofDigitChars 10 digits 0 := by
  rw [number, Nat.ofDigitChars_eq_foldl]
  refine List.foldl_ext _ _ _ fun total char member => ?_
  have digit := all char member
  rw [table.ascii char (isDigit_ascii digit), if_pos digit, Option.getD_some]

/-- What `SESSION_RE` matches. -/
theorem matchesSession_iff {text : List Char} : table.matchesSession text = true ↔
    ∃ digits extension tail, text = ['s', 'e', 's', 's', 'i', 'o', 'n'] ++
        (digits ++ (extensionText extension ++ tail)) ∧
      digits ≠ [] ∧ (∀ char ∈ digits, table.isDecimal char = true) ∧ atEnd tail = true := by
  have dot : table.isDecimal '.' = false := isDecimal_ascii (by decide)
  constructor
  · intro found
    rw [matchesSession] at found
    split at found
    · cases found
    · rename_i behind isPrefix
      have whole := List.isPrefixOf?_eq_some_iff_append_eq.mp isPrefix
      rw [Bool.and_eq_true, decide_eq_true_iff, List.any_eq_true] at found
      obtain ⟨some_, extension, -, ends⟩ := found
      obtain ⟨tail, isExtension, ends⟩ := (Option.any_eq_true _ _).mp ends
      have rest := List.isPrefixOf?_eq_some_iff_append_eq.mp isExtension
      refine ⟨behind.takeWhile table.isDecimal, extension, tail, ?_, some_,
        fun char member => List.mem_takeWhile_imp member, ends⟩
      rw [rest, List.takeWhile_append_dropWhile, whole]
  · rintro ⟨digits, extension, tail, rfl, some_, decimals, ends⟩
    have stops : ∀ char, (extensionText extension ++ tail).head? = some char →
        table.isDecimal char = false := by
      intro char head
      cases extension <;>
      · obtain rfl := Option.some.inj head
        exact dot
    rw [matchesSession, isPrefixOf?_append]
    dsimp only
    rw [takeWhile_digits decimals stops, dropWhile_digits decimals stops, Bool.and_eq_true,
      decide_eq_true_iff]
    refine ⟨some_, List.any_eq_true.mpr ⟨extension, ?_, ?_⟩⟩
    · cases extension <;> simp
    · rw [isPrefixOf?_append, Option.any_some]
      exact ends

private theorem dropDecimals_iff {count : Nat} {text rest : List Char} :
    table.dropDecimals count text = some rest ↔ ∃ digits, text = digits ++ rest ∧
      digits.length = count ∧ ∀ char ∈ digits, table.isDecimal char = true := by
  induction count generalizing text with
  | zero =>
      rw [dropDecimals, Option.some_inj]
      constructor
      · rintro rfl
        exact ⟨[], rfl, rfl, fun _ member => absurd member List.not_mem_nil⟩
      · rintro ⟨digits, rfl, empty, -⟩
        rw [List.length_eq_zero_iff.mp empty, List.nil_append]
  | succ count ih =>
      cases text with
      | nil =>
          refine iff_of_false (fun found => by cases found) ?_
          rintro ⟨digits, empty, length, -⟩
          rw [(List.append_eq_nil_iff.mp empty.symm).1] at length
          cases length
      | cons char text =>
          rw [dropDecimals]
          by_cases decimal : table.isDecimal char = true
          · rw [if_pos decimal, ih]
            constructor
            · rintro ⟨digits, rfl, length, all⟩
              refine ⟨char :: digits, rfl, congrArg (· + 1) length, fun other member => ?_⟩
              rcases List.mem_cons.mp member with rfl | behind
              · exact decimal
              · exact all other behind
            · rintro ⟨digits, split, length, all⟩
              cases digits with
              | nil => cases length
              | cons first digits =>
                  obtain ⟨rfl, rfl⟩ := List.cons.inj split
                  exact ⟨digits, rfl, Nat.succ.inj length,
                    fun other member => all other (List.mem_cons_of_mem _ member)⟩
          · rw [if_neg decimal]
            refine iff_of_false (fun found => by cases found) ?_
            rintro ⟨digits, split, length, all⟩
            cases digits with
            | nil => cases length
            | cons first digits =>
                obtain ⟨rfl, -⟩ := List.cons.inj split
                exact decimal (all _ List.mem_cons_self)

private theorem dropChar_iff {char : Char} {text rest : List Char} :
    dropChar char text = some rest ↔ text = char :: rest := by
  cases text with
  | nil => exact iff_of_false (fun found => by cases found) (fun split => by cases split)
  | cons first behind =>
      rw [dropChar, List.cons.injEq]
      by_cases same : first = char
      · rw [if_pos same, Option.some_inj, and_iff_right same]
      · rw [if_neg same]
        exact iff_of_false (fun found => by cases found) fun both => same both.1

/-- What `DATE_RE` matches. -/
theorem matchesDate_iff {text : List Char} : table.matchesDate text = true ↔
    ∃ year month day tail, text = year ++ '-' :: (month ++ '-' :: (day ++ tail)) ∧
      year.length = 4 ∧ month.length = 2 ∧ day.length = 2 ∧
      (∀ char ∈ year ++ (month ++ day), table.isDecimal char = true) ∧ atEnd tail = true := by
  rw [matchesDate, Option.any_eq_true]
  simp only [Option.bind_eq_some_iff, dropDecimals_iff, dropChar_iff, List.mem_append]
  constructor
  · rintro ⟨tail, ⟨_, ⟨_, ⟨_, ⟨_, ⟨year, rfl, yearLength, years⟩, rfl⟩, month, rfl, monthLength,
      months⟩, rfl⟩, day, rfl, dayLength, days⟩, ends⟩
    refine ⟨year, month, day, tail, rfl, yearLength, monthLength, dayLength, ?_, ends⟩
    rintro char (inYear | inMonth | inDay)
    · exact years char inYear
    · exact months char inMonth
    · exact days char inDay
  · rintro ⟨year, month, day, tail, rfl, yearLength, monthLength, dayLength, decimals, ends⟩
    exact ⟨tail, ⟨_, ⟨_, ⟨_, ⟨_, ⟨year, rfl, yearLength, fun char member =>
      decimals char (.inl member)⟩, rfl⟩, month, rfl, monthLength, fun char member =>
        decimals char (.inr (.inl member))⟩, rfl⟩, day, rfl, dayLength, fun char member =>
          decimals char (.inr (.inr member))⟩, ends⟩

private theorem splitNumbers_text {chunk : List Char}
    (plain : ∀ char ∈ chunk, table.isDecimal char = false) (rest : List Char) :
    table.splitNumbers (chunk ++ rest) =
      (chunk ++ (table.splitNumbers rest).1, (table.splitNumbers rest).2) := by
  induction chunk with
  | nil => rfl
  | cons char chunk ih =>
      rw [List.cons_append, splitNumbers, plain char List.mem_cons_self,
        ih fun other member => plain other (List.mem_cons_of_mem _ member)]
      rfl

/-- A run of digits up to a text, which may be empty at the end. -/
theorem splitNumbers_digits {digits rest : List Char} (some_ : digits ≠ [])
    (all : ∀ char ∈ digits, table.isDecimal char = true)
    (stops : ∀ char, rest.head? = some char → table.isDecimal char = false) :
    table.splitNumbers (digits ++ rest) =
      ([], (digits, (table.splitNumbers rest).1) :: (table.splitNumbers rest).2) := by
  have ends : (table.splitNumbers rest).1 = [] → (table.splitNumbers rest).2 = [] := by
    cases rest with
    | nil => exact fun _ => rfl
    | cons char rest =>
        intro empty
        have one : ∀ other ∈ [char], table.isDecimal other = false := fun other member =>
          List.mem_singleton.mp member ▸ stops char rfl
        have plain := splitNumbers_text one rest
        rw [List.singleton_append] at plain
        rw [plain] at empty
        cases empty
  induction digits with
  | nil => exact absurd rfl some_
  | cons char digits ih =>
      rw [List.cons_append, splitNumbers, all char List.mem_cons_self]
      cases digits with
      | nil =>
          rw [List.nil_append]
          generalize table.splitNumbers rest = parts at ends
          obtain ⟨lead, runs⟩ := parts
          cases lead with
          | nil =>
              obtain rfl : runs = [] := ends rfl
              rfl
          | cons first lead => rfl
      | cons second digits =>
          rw [ih (List.cons_ne_nil _ _) fun other member =>
            all other (List.mem_cons_of_mem _ member)]

/-- The characters of the names that are no digits. -/
theorem isDecimal_plain {text : List Char} (plain : ∀ char ∈ text,
    char.toNat < 128 ∧ char.isDigit = false) : ∀ char ∈ text, table.isDecimal char = false :=
  fun char member => (isDecimal_ascii (plain char member).1).trans (plain char member).2

private theorem atEnd_plain {tail : List Char} (ends : atEnd tail = true) :
    ∀ char ∈ tail, char.toNat < 128 ∧ char.isDigit = false := by
  rw [atEnd, Bool.or_eq_true, decide_eq_true_iff, decide_eq_true_iff] at ends
  rintro char member
  rcases ends with rfl | rfl
  · exact absurd member List.not_mem_nil
  · rw [List.mem_singleton.mp member]
    decide

private theorem extensionText_plain (extension : Extension) :
    ∀ char ∈ extensionText extension, char.toNat < 128 ∧ char.isDigit = false := by
  intro char member
  cases extension <;>
  · simp only [extensionText, List.mem_cons, List.not_mem_nil, or_false] at member
    rcases member with rfl | rfl | rfl | rfl | rfl <;> decide

private theorem head_plain {text : List Char}
    (plain : ∀ char ∈ text, table.isDecimal char = false) :
    ∀ char, text.head? = some char → table.isDecimal char = false :=
  fun char first => plain char (List.mem_of_head? first)

/-- The key of a session file: its number, and then its extension. -/
theorem naturalKey_session {digits : List Char} (some_ : digits ≠ [])
    (all : ∀ char ∈ digits, table.isDecimal char = true) (extension : Extension)
    {tail : List Char} (ends : atEnd tail = true) :
    table.naturalKey (['s', 'e', 's', 's', 'i', 'o', 'n'] ++
        (digits ++ (extensionText extension ++ tail))) =
      [toLex (.inr ['s', 'e', 's', 's', 'i', 'o', 'n']), toLex (.inl (table.number digits)),
        toLex (.inr ((extensionText extension ++ tail).map Char.toLower))] := by
  have word : ∀ char ∈ ['s', 'e', 's', 's', 'i', 'o', 'n'], table.isDecimal char = false := by
    refine isDecimal_plain fun char member => ?_
    simp only [List.mem_cons, List.not_mem_nil, or_false] at member
    rcases member with rfl | rfl | rfl | rfl | rfl | rfl | rfl <;> decide
  have behind : ∀ char ∈ extensionText extension ++ tail, table.isDecimal char = false := by
    refine isDecimal_plain fun char member => ?_
    exact (List.mem_append.mp member).elim (extensionText_plain extension char)
      (atEnd_plain ends char)
  have last := splitNumbers_text behind []
  rw [List.append_nil] at last
  rw [naturalKey, splitNumbers_text word, splitNumbers_digits some_ all (head_plain behind), last]
  simp only [splitNumbers, List.append_nil, List.flatMap_cons, List.flatMap_nil]
  rfl

/-- The key of a date directory: the three numbers. -/
theorem naturalKey_date {year month day tail : List Char} (someYear : year ≠ [])
    (someMonth : month ≠ []) (someDay : day ≠ [])
    (all : ∀ char ∈ year ++ (month ++ day), table.isDecimal char = true)
    (ends : atEnd tail = true) :
    table.naturalKey (year ++ '-' :: (month ++ '-' :: (day ++ tail))) =
      [toLex (.inr []), toLex (.inl (table.number year)), toLex (.inr ['-']),
        toLex (.inl (table.number month)), toLex (.inr ['-']), toLex (.inl (table.number day)),
        toLex (.inr (tail.map Char.toLower))] := by
  simp only [List.mem_append] at all
  have dash : table.isDecimal '-' = false := isDecimal_ascii (by decide)
  have stops : ∀ text : List Char, ∀ char, ('-' :: text).head? = some char →
      table.isDecimal char = false := by
    intro text char first
    obtain rfl := Option.some.inj first
    exact dash
  have behind : ∀ char ∈ tail, table.isDecimal char = false := isDecimal_plain (atEnd_plain ends)
  have last := splitNumbers_text behind []
  rw [List.append_nil] at last
  have dashed : ∀ text, table.splitNumbers ('-' :: text) =
      ('-' :: (table.splitNumbers text).1, (table.splitNumbers text).2) := by
    intro text
    have one : ∀ char ∈ ['-'], table.isDecimal char = false := fun char member =>
      List.mem_singleton.mp member ▸ dash
    exact splitNumbers_text one text
  rw [naturalKey, splitNumbers_digits someYear (fun char member => all char (.inl member))
      (stops _), dashed,
      splitNumbers_digits someMonth (fun char member => all char (.inr (.inl member)))
      (stops _), dashed, splitNumbers_digits someDay
        (fun char member => all char (.inr (.inr member))) (head_plain behind), last]
  simp only [splitNumbers, List.append_nil, List.flatMap_cons, List.flatMap_nil]
  rfl

end DigitTable

/-! ## The names that the writers format -/

private theorem padded_isDigit (width number : Nat) :
    ∀ char ∈ padded width number, char.isDigit = true := by
  intro char member
  rcases List.mem_append.mp member with zero | digit
  · rw [List.eq_of_mem_replicate zero]
    rfl
  · exact toDigits_isDigit number char digit

private theorem padded_length {width number : Nat} (positive : 0 < width)
    (fits : number < 10 ^ width) :
    (padded width number).length = width := by
  have short := (Nat.length_toDigits_le_iff (by decide : 1 < 10) positive).mpr fits
  rw [padded, List.length_append, List.length_replicate]
  omega

private theorem padded_value (width number : Nat) :
    Nat.ofDigitChars 10 (padded width number) 0 = number := by
  rw [padded, Nat.ofDigitChars_append, Nat.ofDigitChars_replicate_zero, Nat.mul_zero,
    Nat.ofDigitChars_ten_toDigits]

/-- What everybody makes of the file of a session: the cleanup worker and the quota count it as a
session file, `next_session_n` reads its number, and the web admin matches it and sorts it by its
number. -/
structure Recognized (table : DigitTable) (n : Nat) (extension : Extension) (name : Name) :
    Prop where
  isSession : isSessionFile name = true
  visible : isHidden name = false
  numbered : scanSession name = some n
  served : table.matchesSession (Utf8.decode name) = true
  key : table.naturalKey (Utf8.decode name) = [toLex (.inr ['s', 'e', 's', 's', 'i', 'o', 'n']),
    toLex (.inl n), toLex (.inr (extensionText extension))]

private theorem sessionName_recognized (table : DigitTable) {n : Nat} (small : n < 2 ^ 32)
    (extension : Extension) : Recognized table n extension (sessionName n extension) := by
  have some_ : Nat.toDigits 10 n ≠ [] := Nat.toDigits_ne_nil
  have decimals : ∀ char ∈ Nat.toDigits 10 n, table.isDecimal char = true := fun char member =>
    (DigitTable.isDecimal_ascii (isDigit_ascii (toDigits_isDigit n char member))).trans
      (toDigits_isDigit n char member)
  have whole : sessionText n extension = ['s', 'e', 's', 's', 'i', 'o', 'n'] ++
      (Nat.toDigits 10 n ++ (extensionText extension ++ [])) := by
    rw [sessionText, List.append_assoc, List.append_nil]
  have decoded : Utf8.decode (sessionName n extension) = sessionText n extension :=
    Utf8.decode_encode _
  refine ⟨?_, ?_, scanSession_sessionName small extension, ?_, ?_⟩
  · rw [sessionName, sessionText, Utf8.encode_append]
    refine isSessionFile_append (fun empty => ?_) extension
    rw [Utf8.encode_append] at empty
    cases (List.append_eq_nil_iff.mp empty).1
  · rfl
  · rw [decoded, whole]
    exact DigitTable.matchesSession_iff.mpr ⟨_, extension, [], rfl, some_, decimals, rfl⟩
  · rw [decoded, whole, DigitTable.naturalKey_session some_ decimals extension rfl,
      DigitTable.number_ascii (toDigits_isDigit n), Nat.ofDigitChars_ten_toDigits, List.append_nil]
    cases extension <;> rfl

/-- What the worker, the quota and the web admin make of the directory of a day. -/
structure RecognizedDate (table : DigitTable) (year month day : Nat) (name : Name) : Prop where
  visible : isHidden name = false
  served : table.matchesDate (Utf8.decode name) = true
  key : table.naturalKey (Utf8.decode name) = [toLex (.inr []), toLex (.inl year),
    toLex (.inr ['-']), toLex (.inl month), toLex (.inr ['-']), toLex (.inl day), toLex (.inr [])]

/-- What `DATE_RE` and `_natural_key` make of the directory of a day. -/
theorem dateName_recognized (table : DigitTable) {year month day : Nat} (years : year < 10 ^ 4)
    (months : month < 10 ^ 2) (days : day < 10 ^ 2) :
    RecognizedDate table year month day (dateName year month day) := by
  have decoded : Utf8.decode (dateName year month day) = dateText year month day :=
    Utf8.decode_encode _
  have yearLength := padded_length (by decide) years
  have monthLength := padded_length (by decide) months
  have dayLength := padded_length (by decide) days
  have digits : ∀ char ∈ padded 4 year ++ (padded 2 month ++ padded 2 day),
      char.isDigit = true := by
    intro char member
    rcases List.mem_append.mp member with inYear | inRest
    · exact padded_isDigit 4 year char inYear
    · exact (List.mem_append.mp inRest).elim (padded_isDigit 2 month char)
        (padded_isDigit 2 day char)
  have decimals : ∀ char ∈ padded 4 year ++ (padded 2 month ++ padded 2 day),
      table.isDecimal char = true := fun char member =>
    (DigitTable.isDecimal_ascii (isDigit_ascii (digits char member))).trans (digits char member)
  have whole : dateText year month day =
      padded 4 year ++ '-' :: (padded 2 month ++ '-' :: (padded 2 day ++ [])) := by
    rw [dateText, List.append_nil]
  have some_ : ∀ {text : List Char} {count : Nat}, text.length = count + 1 → text ≠ [] := by
    rintro text count length rfl
    cases length
  refine ⟨?_, ?_, ?_⟩
  · cases split : padded 4 year with
    | nil =>
        rw [split] at yearLength
        cases yearLength
    | cons first rest =>
        have digit := padded_isDigit 4 year first (by rw [split]; exact List.mem_cons_self)
        have bounds := Char.isDigit_iff_toNat.mp digit
        rw [dateName, dateText, split, List.cons_append, Utf8.encode_cons,
          utf8EncodeChar_ascii (isDigit_ascii digit), isHidden]
        rw [List.singleton_append, List.head?_cons, beq_eq_false_iff_ne]
        intro same
        have numbers := congrArg UInt8.toNat (Option.some.inj same)
        have zero : '0'.toNat = 48 := rfl
        rw [UInt8.toNat_ofNat'] at numbers
        have small := isDigit_ascii digit
        have dot : (0x2E : UInt8).toNat = 46 := rfl
        omega
  · rw [decoded, whole]
    exact DigitTable.matchesDate_iff.mpr
      ⟨_, _, _, [], rfl, yearLength, monthLength, dayLength, decimals, rfl⟩
  · rw [decoded, whole, DigitTable.naturalKey_date (some_ yearLength) (some_ monthLength)
      (some_ dayLength) decimals rfl, DigitTable.number_ascii (padded_isDigit 4 year),
      DigitTable.number_ascii (padded_isDigit 2 month),
      DigitTable.number_ascii (padded_isDigit 2 day), padded_value, padded_value, padded_value]
    rfl

/-- The web admin serves no file that the cleanup worker and the quota leave out, unless its name
ends in a newline. -/
theorem isSessionFile_of_served {table : DigitTable} {text : List Char}
    (served : table.matchesSession text = true) (last : text.getLast? ≠ some '\n') :
    isSessionFile (Utf8.encode text) = true ∧ isHidden (Utf8.encode text) = false := by
  obtain ⟨digits, extension, tail, rfl, -, -, ends⟩ := DigitTable.matchesSession_iff.mp served
  rw [DigitTable.atEnd, Bool.or_eq_true, decide_eq_true_iff, decide_eq_true_iff] at ends
  rcases ends with rfl | rfl
  · refine ⟨?_, rfl⟩
    rw [List.append_nil, ← List.append_assoc, Utf8.encode_append]
    refine isSessionFile_append (fun empty => ?_) extension
    rw [Utf8.encode_append] at empty
    cases (List.append_eq_nil_iff.mp empty).1
  · refine absurd ?_ last
    rw [← List.append_assoc, ← List.append_assoc, List.getLast?_append, List.getLast?_singleton]
    rfl

/-- No file in the directory has the last number there is. -/
def HasRoom (names : List Name) : Prop :=
  ∀ name ∈ names, ∀ n, scanSession name = some n → n + 1 < 2 ^ 32

/-- The number of a new session is above those of all files in the directory. -/
theorem nextSessionNumber_above {names : List Name} (room : HasRoom names) :
    nextSessionNumber names < 2 ^ 32 ∧
      ∀ name ∈ names, ∀ n, scanSession name = some n → n < nextSessionNumber names := by
  have small : highestSessionN (names.filterMap scanSession) < 2 ^ 32 - 1 := by
    refine highestSessionN_lt (by decide) fun n member => ?_
    obtain ⟨name, present, scans⟩ := List.mem_filterMap.mp member
    have below := room name present n scans
    omega
  have next : nextSessionNumber names = highestSessionN (names.filterMap scanSession) + 1 :=
    Nat.mod_eq_of_lt (by omega)
  rw [next]
  refine ⟨by omega, fun name member n scans => Nat.lt_succ_of_le ?_⟩
  exact le_highestSessionN (List.mem_filterMap.mpr ⟨name, member, scans⟩)

/-- **The components agree on the names of session files.** What a writer formats is a session
file for the worker and the quota, is read back by `next_session_n` and served and sorted by the
web admin, for the number that it was formatted with; what the web admin serves is aged by the
worker, but for a name that ends in a newline; the directory of a day is served and sorted by its
date; and in any directory, whatever else is in it, the number of a new session is that of no
file. -/
theorem names_agree (table : DigitTable) :
    (∀ n < 2 ^ 32, ∀ extension, Recognized table n extension (sessionName n extension)) ∧
      (∀ year < 10 ^ 4, ∀ month < 10 ^ 2, ∀ day < 10 ^ 2,
        RecognizedDate table year month day (dateName year month day)) ∧
      (∀ text, table.matchesSession text = true → text.getLast? ≠ some '\n' →
        isSessionFile (Utf8.encode text) = true ∧ isHidden (Utf8.encode text) = false) ∧
      ∀ names, HasRoom names → ∀ extension,
        Recognized table (nextSessionNumber names) extension
            (sessionName (nextSessionNumber names) extension) ∧
          sessionName (nextSessionNumber names) extension ∉ names ∧
          ∀ m < 2 ^ 32, ∀ other, sessionName m other ∈ names → m < nextSessionNumber names := by
  refine ⟨fun n small extension => sessionName_recognized table small extension,
    fun year years month months day days => dateName_recognized table years months days,
    fun text served last => isSessionFile_of_served served last,
    fun names room extension => ?_⟩
  obtain ⟨small, above⟩ := nextSessionNumber_above room
  refine ⟨sessionName_recognized table small extension, fun taken => ?_, fun m below other member =>
    above _ member m (scanSession_sessionName below other)⟩
  exact Nat.lt_irrefl _ (above _ taken _ (scanSession_sessionName small extension))

/-- The digits of ASCII alone, as `re.ASCII` has them. -/
def asciiDigits : DigitTable where
  decimal char := if char.isDigit then some (char.toNat - '0'.toNat) else none
  ascii _ _ := rfl

/-- The directory of a day with both files of a first session and the tlog of a second. -/
def secondSession : List Name := [sessionName 1 .tlog, sessionName 1 .bin, sessionName 2 .tlog]

/-- Behind two sessions comes the third, and the directory of its day is served. -/
theorem names_agree_secondSession :
    nextSessionNumber secondSession = 3 ∧
      Recognized asciiDigits 3 .bin (sessionName 3 .bin) ∧
      sessionName 3 .bin ∉ secondSession ∧
      RecognizedDate asciiDigits 2026 2 9 (dateName 2026 2 9) := by
  have scanned : secondSession.filterMap scanSession = [1, 1, 2] := by
    simp only [secondSession, List.filterMap_cons, List.filterMap_nil,
      scanSession_sessionName (show 1 < 2 ^ 32 by decide),
      scanSession_sessionName (show 2 < 2 ^ 32 by decide)]
  have next : nextSessionNumber secondSession = 3 := by
    rw [nextSessionNumber, scanned]
    rfl
  have room : HasRoom secondSession := by
    intro name member n scans
    have numbered : n ∈ [1, 1, 2] := scanned ▸ List.mem_filterMap.mpr ⟨name, member, scans⟩
    simp only [List.mem_cons, List.not_mem_nil, or_false] at numbered
    omega
  obtain ⟨-, dates, -, numbers⟩ := names_agree asciiDigits
  obtain ⟨recognized, fresh, -⟩ := numbers secondSession room .bin
  rw [next] at recognized fresh
  exact ⟨next, recognized, fresh, dates 2026 (by decide) 2 (by decide) 9 (by decide)⟩

end SupportProxy.LogTree

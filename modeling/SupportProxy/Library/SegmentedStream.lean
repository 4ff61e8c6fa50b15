import Mathlib.Data.List.Basic
import Mathlib.Order.Basic

/-! # Streams read in segments

A reader consumes a stream buffer by buffer. It may carry something from byte to byte that the
start of the next buffer clears, so where the stream is cut matters. `Indifferent` is the
condition on a stream under which the cuts never show
(`SegmentedStream.Reader.forall_cut_iff_indifferent`). -/

namespace SegmentedStream

/-- A byte-driven state machine. A step yields the next state and the outputs it produced. -/
structure Reader (σ β ω : Type*) where
  step : σ → β → σ × List ω
  /-- what the start of a buffer does to the state -/
  start : σ → σ
  /-- there is nothing that the start of a buffer would clear -/
  settled : σ → Bool
  settled_start : ∀ state, settled (start state) = true
  start_of_settled : ∀ state, settled state = true → start state = state

/-- A way of cutting a stream into buffers of one to `limit` bytes. -/
def Cut {β : Type*} (limit : Nat) (bytes : List β) (buffers : List (List β)) : Prop :=
  buffers.flatten = bytes ∧ ∀ buffer ∈ buffers, buffer ≠ [] ∧ buffer.length ≤ limit

/-- Reading byte by byte is a way of cutting. -/
theorem cut_singletons {β : Type*} {limit : Nat} (positive : 0 < limit) (bytes : List β) :
    Cut limit bytes (bytes.map fun byte => [byte]) := by
  constructor
  · induction bytes with
    | nil => rfl
    | cons byte bytes ih => rw [List.map_cons, List.flatten_cons, ih, List.singleton_append]
  · intro buffer member
    obtain ⟨byte, _, rfl⟩ := List.mem_map.mp member
    exact ⟨List.cons_ne_nil _ _, positive⟩

namespace Reader

variable {σ β ω : Type*} (reader : Reader σ β ω)

/-- Read on in a buffer. -/
def read : σ → List β → σ × List ω
  | state, [] => (state, [])
  | state, byte :: rest =>
      let (next, out) := reader.step state byte
      ((read next rest).1, out ++ (read next rest).2)

/-- Read a sequence of buffers. -/
def readAll : σ → List (List β) → σ × List ω
  | state, [] => (state, [])
  | state, buffer :: rest =>
      let (next, out) := reader.read (reader.start state) buffer
      ((readAll next rest).1, out ++ (readAll next rest).2)

/-- The outputs of a stream that is read byte by byte. -/
def walk : σ → List β → List ω
  | _, [] => []
  | state, byte :: rest =>
      (reader.step (reader.start state) byte).2 ++
        walk (reader.step (reader.start state) byte).1 rest

/-- The first step that leaves something to clear: the outputs up to it, the state it leaves and
the bytes behind it. -/
def firstUnsettled : σ → List β → Option (List ω × σ × List β)
  | _, [] => none
  | state, byte :: rest =>
      let (next, out) := reader.step state byte
      if reader.settled next then
        (firstUnsettled next rest).map fun found => (out ++ found.1, found.2)
      else some (out, next, rest)

/-- Reading fewer than `limit` bytes before the next buffer starts changes nothing in the outputs,
at the first step that leaves something to clear and at every later one. -/
inductive Indifferent (limit : Nat) : σ → List β → Prop
  | intro (state : σ) (bytes : List β)
      (same : ∀ out next rest,
        reader.firstUnsettled (reader.start state) bytes = some (out, next, rest) →
          ∀ more < limit, (reader.read next (rest.take more)).2 ++
            reader.walk (reader.read next (rest.take more)).1 (rest.drop more) =
              reader.walk next rest)
      (later : ∀ out next rest,
        reader.firstUnsettled (reader.start state) bytes = some (out, next, rest) →
          ∀ more < limit,
            Indifferent limit (reader.read next (rest.take more)).1 (rest.drop more)) :
      Indifferent limit state bytes

variable {reader}

/-- Reading on by one byte. -/
theorem read_cons (state : σ) (byte : β) (rest : List β) :
    reader.read state (byte :: rest) = ((reader.read (reader.step state byte).1 rest).1,
      (reader.step state byte).2 ++ (reader.read (reader.step state byte).1 rest).2) := rfl

/-- Reading on by one buffer. -/
theorem readAll_cons (state : σ) (buffer : List β) (rest : List (List β)) :
    reader.readAll state (buffer :: rest) =
      ((reader.readAll (reader.read (reader.start state) buffer).1 rest).1,
        (reader.read (reader.start state) buffer).2 ++
          (reader.readAll (reader.read (reader.start state) buffer).1 rest).2) := rfl

/-- The search goes on behind a settled step. -/
theorem firstUnsettled_cons_settled {state : σ} {byte : β} {rest : List β}
    (settled : reader.settled (reader.step state byte).1 = true) :
    reader.firstUnsettled state (byte :: rest) =
      (reader.firstUnsettled (reader.step state byte).1 rest).map
        fun found => ((reader.step state byte).2 ++ found.1, found.2) := by
  simp only [firstUnsettled, settled, ↓reduceIte]

/-- The search ends at an unsettled step. -/
theorem firstUnsettled_cons_unsettled {state : σ} {byte : β} {rest : List β}
    (unsettled : reader.settled (reader.step state byte).1 = false) :
    reader.firstUnsettled state (byte :: rest) =
      some ((reader.step state byte).2, (reader.step state byte).1, rest) := by
  simp only [firstUnsettled, unsettled, Bool.false_eq_true, ↓reduceIte]

/-- What a first unsettled step behind a settled one is. -/
theorem firstUnsettled_behind {state next : σ} {byte : β} {bytes rest : List β} {out : List ω}
    (settled : reader.settled (reader.step state byte).1 = true)
    (found : reader.firstUnsettled state (byte :: bytes) = some (out, next, rest)) :
    ∃ inner, reader.firstUnsettled (reader.step state byte).1 bytes = some (inner, next, rest) ∧
      out = (reader.step state byte).2 ++ inner := by
  rw [firstUnsettled_cons_settled settled] at found
  obtain ⟨⟨inner, innerNext, innerRest⟩, located, same⟩ := Option.map_eq_some_iff.mp found
  rw [Prod.mk.injEq, Prod.mk.injEq] at same
  obtain ⟨rfl, rfl, rfl⟩ := same
  exact ⟨inner, located, rfl⟩

/-- The first unsettled step is one of the steps, with fewer bytes behind it. -/
theorem firstUnsettled_shorter {state next : σ} {bytes rest : List β} {out : List ω}
    (found : reader.firstUnsettled state bytes = some (out, next, rest)) :
    rest.length < bytes.length := by
  induction bytes generalizing state out with
  | nil => cases found
  | cons byte bytes ih =>
      rw [List.length_cons]
      cases settled : reader.settled (reader.step state byte).1 with
      | true =>
          obtain ⟨inner, located, -⟩ := firstUnsettled_behind settled found
          exact Nat.lt_succ_of_lt (ih located)
      | false =>
          rw [firstUnsettled_cons_unsettled settled, Option.some.injEq, Prod.mk.injEq,
            Prod.mk.injEq] at found
          obtain ⟨-, -, rfl⟩ := found
          exact Nat.lt_succ_self _

/-- Byte by byte, the outputs up to the first unsettled step come first. -/
theorem walk_of_firstUnsettled {state next : σ} {bytes rest : List β} {out : List ω}
    (clean : reader.settled state = true)
    (found : reader.firstUnsettled state bytes = some (out, next, rest)) :
    reader.walk state bytes = out ++ reader.walk next rest := by
  induction bytes generalizing state out with
  | nil => cases found
  | cons byte bytes ih =>
      rw [walk, reader.start_of_settled state clean]
      cases settled : reader.settled (reader.step state byte).1 with
      | true =>
          obtain ⟨inner, located, rfl⟩ := firstUnsettled_behind settled found
          rw [ih settled located, List.append_assoc]
      | false =>
          rw [firstUnsettled_cons_unsettled settled, Option.some.injEq, Prod.mk.injEq,
            Prod.mk.injEq] at found
          obtain ⟨rfl, rfl, rfl⟩ := found
          rfl

/-- The start of a buffer comes before every byte of a stream that is read byte by byte. -/
theorem walk_start (state : σ) (bytes : List β) :
    reader.walk (reader.start state) bytes = reader.walk state bytes := by
  cases bytes with
  | nil => rfl
  | cons byte rest =>
      rw [walk, walk, reader.start_of_settled _ (reader.settled_start state)]

/-- The start of the first buffer may come early. -/
theorem readAll_start (state : σ) (buffers : List (List β)) :
    (reader.readAll (reader.start state) buffers).2 = (reader.readAll state buffers).2 := by
  cases buffers with
  | nil => rfl
  | cons buffer rest =>
      rw [readAll_cons, readAll_cons, reader.start_of_settled _ (reader.settled_start state)]

/-- Where every step leaves nothing to clear, the cuts do not show. -/
theorem readAll_of_firstUnsettled_none {state : σ} {buffers : List (List β)}
    (clean : reader.settled state = true)
    (undisturbed : reader.firstUnsettled state buffers.flatten = none) :
    (reader.readAll state buffers).2 = reader.walk state buffers.flatten := by
  induction buffers generalizing state with
  | nil => rfl
  | cons buffer buffers ih =>
      -- read the first buffer byte by byte, carrying the rest of the stream along
      have go : ∀ (bytes : List β) (current : σ), reader.settled current = true →
          reader.firstUnsettled current (bytes ++ buffers.flatten) = none →
            (reader.read current bytes).2 ++
                (reader.readAll (reader.read current bytes).1 buffers).2 =
              reader.walk current (bytes ++ buffers.flatten) := by
        intro bytes
        induction bytes with
        | nil =>
            intro current settled rest
            exact ih settled rest
        | cons byte bytes inner =>
            intro current settled rest
            rw [List.cons_append] at rest ⊢
            cases next : reader.settled (reader.step current byte).1 with
            | false =>
                rw [firstUnsettled_cons_unsettled next] at rest
                exact (Option.some_ne_none _ rest).elim
            | true =>
                rw [firstUnsettled_cons_settled next, Option.map_eq_none_iff] at rest
                rw [read_cons, walk, reader.start_of_settled current settled, List.append_assoc,
                  inner _ next rest]
      rw [readAll_cons, reader.start_of_settled state clean]
      exact go buffer state clean undisturbed

/-- The buffer of the first unsettled step goes on with fewer than `limit` bytes. -/
theorem readAll_of_firstUnsettled_some {limit : Nat} {state next : σ} {buffers : List (List β)}
    {rest : List β} {out : List ω} (clean : reader.settled state = true)
    (bounded : ∀ buffer ∈ buffers, buffer ≠ [] ∧ buffer.length ≤ limit)
    (found : reader.firstUnsettled state buffers.flatten = some (out, next, rest)) :
    ∃ more < limit, ∃ later, Cut limit (rest.drop more) later ∧
      (reader.readAll state buffers).2 = out ++ ((reader.read next (rest.take more)).2 ++
        (reader.readAll (reader.read next (rest.take more)).1 later).2) := by
  induction buffers generalizing state out with
  | nil => cases found
  | cons buffer buffers ih =>
      have later : ∀ other ∈ buffers, other ≠ [] ∧ other.length ≤ limit := fun other member =>
        bounded other (List.mem_cons_of_mem _ member)
      have go : ∀ (bytes : List β) (current : σ) (out : List ω), bytes.length ≤ limit →
          reader.settled current = true →
          reader.firstUnsettled current (bytes ++ buffers.flatten) = some (out, next, rest) →
            ∃ more < limit, ∃ later, Cut limit (rest.drop more) later ∧
              (reader.read current bytes).2 ++
                  (reader.readAll (reader.read current bytes).1 buffers).2 =
                out ++ ((reader.read next (rest.take more)).2 ++
                  (reader.readAll (reader.read next (rest.take more)).1 later).2) := by
        intro bytes
        induction bytes with
        | nil =>
            intro current out _ settled located
            exact ih settled later located
        | cons byte bytes inner =>
            intro current out short settled located
            rw [List.length_cons] at short
            rw [List.cons_append] at located
            cases step : reader.settled (reader.step current byte).1 with
            | false =>
                rw [firstUnsettled_cons_unsettled step, Option.some.injEq, Prod.mk.injEq,
                  Prod.mk.injEq] at located
                obtain ⟨rfl, rfl, rfl⟩ := located
                refine ⟨bytes.length, short, buffers, ⟨?_, later⟩, ?_⟩
                · rw [List.drop_left]
                · rw [read_cons, List.take_left, List.append_assoc]
            | true =>
                obtain ⟨innerOut, reached, rfl⟩ := firstUnsettled_behind step located
                obtain ⟨more, few, after, cut, outputs⟩ :=
                  inner _ innerOut (by omega) step reached
                refine ⟨more, few, after, cut, ?_⟩
                rw [read_cons, List.append_assoc, outputs, List.append_assoc]
      rw [readAll_cons, reader.start_of_settled state clean]
      exact go buffer state out (bounded buffer List.mem_cons_self).2 clean found

/-- Reading buffers of one byte is reading byte by byte. -/
theorem readAll_singletons (state : σ) (bytes : List β) :
    (reader.readAll state (bytes.map fun byte => [byte])).2 = reader.walk state bytes := by
  induction bytes generalizing state with
  | nil => rfl
  | cons byte bytes ih =>
      rw [List.map_cons, readAll_cons, walk, ih, read_cons, read, List.append_nil]

/-- Any few bytes behind the first unsettled step can be made to share its buffer. -/
theorem exists_cut_sharing {limit : Nat} (positive : 0 < limit) {state next : σ}
    {bytes rest : List β} {out : List ω} (clean : reader.settled state = true)
    (found : reader.firstUnsettled state bytes = some (out, next, rest)) {more : Nat}
    (few : more < limit) {later : List (List β)} (cut : Cut limit (rest.drop more) later) :
    ∃ buffers, Cut limit bytes buffers ∧
      (reader.readAll state buffers).2 = out ++ ((reader.read next (rest.take more)).2 ++
        (reader.readAll (reader.read next (rest.take more)).1 later).2) := by
  induction bytes generalizing state out with
  | nil => cases found
  | cons byte bytes ih =>
      cases step : reader.settled (reader.step state byte).1 with
      | false =>
          rw [firstUnsettled_cons_unsettled step, Option.some.injEq, Prod.mk.injEq,
            Prod.mk.injEq] at found
          obtain ⟨rfl, rfl, rfl⟩ := found
          refine ⟨(byte :: bytes.take more) :: later, ⟨?_, ?_⟩, ?_⟩
          · rw [List.flatten_cons, cut.1, List.cons_append, List.take_append_drop]
          · intro buffer member
            rcases List.mem_cons.mp member with rfl | behind
            · refine ⟨List.cons_ne_nil _ _, ?_⟩
              rw [List.length_cons, List.length_take]
              omega
            · exact cut.2 buffer behind
          · rw [readAll_cons, reader.start_of_settled state clean, read_cons, List.append_assoc]
      | true =>
          obtain ⟨inner, located, rfl⟩ := firstUnsettled_behind step found
          obtain ⟨buffers, covers, outputs⟩ := ih step located
          refine ⟨[byte] :: buffers, ⟨by rw [List.flatten_cons, covers.1]; rfl, ?_⟩, ?_⟩
          · intro buffer member
            rcases List.mem_cons.mp member with rfl | behind
            · exact ⟨List.cons_ne_nil _ _, positive⟩
            · exact covers.2 buffer behind
          · rw [readAll_cons, reader.start_of_settled state clean, read_cons, read,
              List.append_nil, outputs, List.append_assoc]

/-- An indifferent stream yields what it yields byte by byte. -/
theorem Indifferent.readAll {limit : Nat} {state : σ} {bytes : List β}
    (indifferent : reader.Indifferent limit state bytes) {buffers : List (List β)}
    (cut : Cut limit bytes buffers) :
    (reader.readAll state buffers).2 = reader.walk state bytes := by
  induction indifferent generalizing buffers with
  | intro state bytes same _ ih =>
      obtain ⟨rfl, bounded⟩ := cut
      have clean := reader.settled_start state
      rw [← readAll_start, ← walk_start]
      cases found : reader.firstUnsettled (reader.start state) buffers.flatten with
      | none => exact readAll_of_firstUnsettled_none clean found
      | some result =>
          obtain ⟨out, next, rest⟩ := result
          obtain ⟨more, few, later, cut, outputs⟩ :=
            readAll_of_firstUnsettled_some clean bounded found
          rw [outputs, walk_of_firstUnsettled clean found, ih out next rest found more few cut,
            same out next rest found more few]

/-- **When the cuts do not show.** Every way of cutting the stream yields the same outputs exactly
when the stream is indifferent to where buffers start behind its unsettled steps. -/
theorem forall_cut_iff_indifferent {limit : Nat} (positive : 0 < limit) {state : σ}
    {bytes : List β} :
    (∀ first second, Cut limit bytes first → Cut limit bytes second →
        (reader.readAll state first).2 = (reader.readAll state second).2) ↔
      reader.Indifferent limit state bytes := by
  constructor
  · intro agree
    induction hlength : bytes.length using Nat.strongRecOn generalizing state bytes with
    | _ length ih =>
        have clean := reader.settled_start state
        -- a cut of the rest behind the unsettled step is the end of a cut of the stream
        have tails : ∀ out next rest,
            reader.firstUnsettled (reader.start state) bytes = some (out, next, rest) →
            ∀ more < limit, ∀ other < limit, ∀ first second,
              Cut limit (rest.drop more) first → Cut limit (rest.drop other) second →
                (reader.read next (rest.take more)).2 ++
                    (reader.readAll (reader.read next (rest.take more)).1 first).2 =
                  (reader.read next (rest.take other)).2 ++
                    (reader.readAll (reader.read next (rest.take other)).1 second).2 := by
          intro out next rest found more few other fewer first second left right
          obtain ⟨whole, covers, outputs⟩ := exists_cut_sharing positive clean found few left
          obtain ⟨whole', covers', outputs'⟩ := exists_cut_sharing positive clean found fewer right
          have equal := agree whole whole' covers covers'
          rw [← readAll_start state whole, ← readAll_start state whole', outputs, outputs'] at equal
          exact List.append_cancel_left equal
        refine .intro state bytes ?_ ?_
        · intro out next rest found more few
          rw [← readAll_singletons, ← readAll_singletons]
          exact tails out next rest found more few 0 positive _ _
            (cut_singletons positive _) (cut_singletons positive _)
        · intro out next rest found more few
          have shorter := firstUnsettled_shorter found
          refine ih (rest.drop more).length ?_ ?_ rfl
          · rw [← hlength, List.length_drop]
            omega
          · intro first second left right
            exact List.append_cancel_left
              (tails out next rest found more few more few first second left right)
  · intro indifferent first second left right
    rw [indifferent.readAll left, indifferent.readAll right]

end Reader

end SegmentedStream

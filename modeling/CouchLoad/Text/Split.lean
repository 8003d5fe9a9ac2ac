/-!
# Cutting texts at marks

A text is cut at every occurrence of a character, at its first occurrence, or at the last
occurrence of a longer mark.
-/

namespace CouchLoad.Text

/-- The pieces between the occurrences of `mark`; there is always at least one. -/
def splitAtEach (mark : Char) : List Char → List (List Char)
  | [] => [[]]
  | c :: s =>
    if c = mark then [] :: splitAtEach mark s
    else
      match splitAtEach mark s with
      | [] => [[c]]
      | piece :: pieces => (c :: piece) :: pieces

/-- What stands before and after the first occurrence of `mark`. -/
def splitAtFirst? (mark : Char) : List Char → Option (List Char × List Char)
  | [] => none
  | c :: s =>
    if c = mark then some ([], s)
    else (splitAtFirst? mark s).map fun (before, after) => (c :: before, after)

/-- What stands before and after the last occurrence of `mark`. -/
def splitAtLast? (mark : List Char) : List Char → Option (List Char × List Char)
  | [] => none
  | c :: s =>
    match splitAtLast? mark s with
    | some (before, after) => some (c :: before, after)
    | none => (mark.isPrefixOf? (c :: s)).map fun after => ([], after)

/-- The lines of a text, each with its line feed; nothing follows a final line feed. -/
def lines : List Char → List (List Char)
  | [] => []
  | c :: s =>
    if c = '\n' then [c] :: lines s
    else
      match lines s with
      | [] => [[c]]
      | line :: rest => (c :: line) :: rest

theorem splitAtEach_ne_nil (mark : Char) (s : List Char) : splitAtEach mark s ≠ [] := by
  cases s with
  | nil => simp [splitAtEach]
  | cons c s =>
    unfold splitAtEach
    split
    · simp
    · split <;> simp

/-- No piece of a text that is cut at a mark holds the mark. -/
theorem notMem_of_mem_splitAtEach {mark : Char} {s piece : List Char}
    (h : piece ∈ splitAtEach mark s) : mark ∉ piece := by
  induction s generalizing piece with
  | nil => simp_all [splitAtEach]
  | cons c s ih =>
    unfold splitAtEach at h
    split at h
    · rcases List.mem_cons.1 h with rfl | h
      · exact List.not_mem_nil
      · exact ih h
    · rename_i hc
      split at h
      · rename_i hnone
        exact absurd hnone (splitAtEach_ne_nil mark s)
      · rename_i first rest hpieces
        rw [hpieces] at ih
        rcases List.mem_cons.1 h with rfl | h
        · exact fun hmem => (List.mem_cons.1 hmem).elim (fun heq => hc heq.symm)
            (ih List.mem_cons_self)
        · exact ih (List.mem_cons_of_mem _ h)

/-- A text without the mark is one piece. -/
theorem splitAtEach_of_notMem {mark : Char} {s : List Char} (h : mark ∉ s) :
    splitAtEach mark s = [s] := by
  induction s with
  | nil => rfl
  | cons c s ih =>
    rw [List.mem_cons, not_or] at h
    rw [splitAtEach, if_neg (Ne.symm h.1), ih h.2]

/-- The first piece ends at the first mark. -/
theorem splitAtEach_append_cons {mark : Char} {piece : List Char} (h : mark ∉ piece)
    (s : List Char) : splitAtEach mark (piece ++ mark :: s) = piece :: splitAtEach mark s := by
  induction piece with
  | nil => rw [List.nil_append, splitAtEach, if_pos rfl]
  | cons c piece ih =>
    rw [List.mem_cons, not_or] at h
    rw [List.cons_append, splitAtEach, if_neg (Ne.symm h.1), ih h.2]

/-- Pieces without the mark are found again behind the marks they were put behind. -/
theorem splitAtEach_flatMap {mark : Char} {piece : List Char} {pieces : List (List Char)}
    (hpiece : mark ∉ piece) (hpieces : ∀ p ∈ pieces, mark ∉ p) :
    splitAtEach mark (piece ++ pieces.flatMap (mark :: ·)) = piece :: pieces := by
  induction pieces generalizing piece with
  | nil =>
    rw [List.flatMap_nil, List.append_nil]
    exact splitAtEach_of_notMem hpiece
  | cons p pieces ih =>
    rw [List.flatMap_cons, List.cons_append, splitAtEach_append_cons hpiece,
      ih (hpieces p List.mem_cons_self) fun q hq => hpieces q (List.mem_cons_of_mem _ hq)]

/-- A text is cut at a mark that does not occur before it. -/
theorem splitAtFirst?_append {mark : Char} {before : List Char} (h : mark ∉ before)
    (after : List Char) : splitAtFirst? mark (before ++ mark :: after) = some (before, after) := by
  induction before with
  | nil => simp [splitAtFirst?]
  | cons c before ih =>
    rw [List.mem_cons, not_or] at h
    simp [splitAtFirst?, Ne.symm h.1, ih h.2]

/-- What the two sides of the first mark are cut from. -/
theorem eq_of_splitAtFirst? {mark : Char} {s before after : List Char}
    (h : splitAtFirst? mark s = some (before, after)) : s = before ++ mark :: after := by
  induction s generalizing before with
  | nil => simp [splitAtFirst?] at h
  | cons c s ih =>
    unfold splitAtFirst? at h
    by_cases hc : c = mark
    · simp only [hc, if_true, Option.some.injEq, Prod.mk.injEq] at h
      obtain ⟨rfl, rfl⟩ := h
      simp [hc]
    · simp only [hc, if_false, Option.map_eq_some_iff, Prod.mk.injEq, Prod.exists] at h
      obtain ⟨b, a, hs, rfl, rfl⟩ := h
      simp [ih hs]

/-- The first mark is the first one. -/
theorem notMem_of_splitAtFirst? {mark : Char} {s before after : List Char}
    (h : splitAtFirst? mark s = some (before, after)) : mark ∉ before := by
  induction s generalizing before with
  | nil => simp [splitAtFirst?] at h
  | cons c s ih =>
    unfold splitAtFirst? at h
    by_cases hc : c = mark
    · simp only [hc, if_true, Option.some.injEq, Prod.mk.injEq] at h
      obtain ⟨rfl, rfl⟩ := h
      exact List.not_mem_nil
    · simp only [hc, if_false, Option.map_eq_some_iff, Prod.mk.injEq, Prod.exists] at h
      obtain ⟨b, a, hs, rfl, rfl⟩ := h
      exact fun hmem => (List.mem_cons.1 hmem).elim (fun heq => hc heq.symm) (ih hs)

end CouchLoad.Text

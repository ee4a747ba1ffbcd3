/-!
# Splitting at a separator

`splitAt sep` cuts a text at every occurrence of a character, so a text without it is one piece and
neighbouring separators leave an empty piece between them. `joinWith` puts pieces together again:
`joinWith_splitAt` says that nothing is lost.
-/

namespace VolumeBroker

namespace Split

/-- Puts a character in front of the first piece. -/
def consHead (c : Char) : List (List Char) → List (List Char)
  | [] => [[c]]
  | piece :: rest => (c :: piece) :: rest

/-- The pieces of a text between the separators. -/
def splitAt (sep : Char) : List Char → List (List Char)
  | [] => [[]]
  | c :: rest => if c = sep then [] :: splitAt sep rest else consHead c (splitAt sep rest)

/-- The pieces with a separator between neighbours. -/
def joinWith (sep : Char) : List (List Char) → List Char
  | [] => []
  | [piece] => piece
  | piece :: rest => piece ++ sep :: joinWith sep rest

theorem splitAt_ne_nil (sep : Char) : ∀ text, splitAt sep text ≠ []
  | [] => by simp [splitAt]
  | c :: rest => by
    simp only [splitAt]
    split
    · simp
    · cases splitAt sep rest <;> simp [consHead]

theorem joinWith_consHead (sep c : Char) :
    ∀ pieces : List (List Char), pieces ≠ [] →
      joinWith sep (consHead c pieces) = c :: joinWith sep pieces
  | [], h => absurd rfl h
  | [_], _ => rfl
  | _ :: _ :: _, _ => rfl

theorem joinWith_nil_cons (sep : Char) :
    ∀ pieces : List (List Char), pieces ≠ [] → joinWith sep ([] :: pieces) = sep :: joinWith sep pieces
  | [], h => absurd rfl h
  | _ :: _, _ => rfl

/-- Splitting loses nothing. -/
theorem joinWith_splitAt (sep : Char) : ∀ text, joinWith sep (splitAt sep text) = text
  | [] => rfl
  | c :: rest => by
    have ih := joinWith_splitAt sep rest
    have hne := splitAt_ne_nil sep rest
    simp only [splitAt]
    split
    · next h => rw [joinWith_nil_cons sep _ hne, ih, h]
    · rw [joinWith_consHead sep c _ hne, ih]

/-- No piece holds a separator. -/
theorem sep_notMem_splitAt (sep : Char) : ∀ text, ∀ piece ∈ splitAt sep text, sep ∉ piece
  | [], piece, h => by simp [splitAt] at h; simp [h]
  | c :: rest, piece, h => by
    have ih := sep_notMem_splitAt sep rest
    simp only [splitAt] at h
    split at h
    · rcases List.mem_cons.1 h with rfl | h
      · simp
      · exact ih piece h
    · next hc =>
      revert h ih
      cases splitAt sep rest with
      | nil => intro _ h; simp [consHead] at h; simp [h]; exact fun h => hc h.symm
      | cons first others =>
        intro ih h
        simp only [consHead, List.mem_cons] at h
        rcases h with rfl | h
        · have := ih first List.mem_cons_self
          simp [this]; exact fun h => hc h.symm
        · exact ih piece (List.mem_cons_of_mem _ h)

/-- The text before the first separator, and the text behind it if there is one. -/
def cut (sep : Char) : List Char → List Char × Option (List Char)
  | [] => ([], none)
  | c :: rest =>
    if c = sep then ([], some rest)
    else
      let (before, behind) := cut sep rest
      (c :: before, behind)

end Split

end VolumeBroker

import Switchboard.Proofs.Json.Grammar

/-!
# Quoted texts are read by their grammar

The reader of quoted texts takes one piece at a time, so it stops at the first
quote that no piece has taken, with the characters that the pieces write.
-/

namespace Switchboard.Json

private theorem isTrailing_of_isLeading {unit : Nat}
    (leading : isLeading unit = true) : isTrailing unit = false := by
  simp only [isLeading, isTrailing, Bool.and_eq_true, Bool.and_eq_false_iff,
    decide_eq_true_eq, decide_eq_false_iff_not] at leading ⊢
  omega

private theorem readQuoted_piece {piece : List Char} {letter : Char}
    (writes : Writes piece letter) (taken rest : List Char) :
    readQuoted taken (piece ++ rest) = readQuoted (letter :: taken) rest := by
  cases writes with
  | plain _ slash printable =>
      have shown : ¬letter.toNat < 32 := by omega
      simp [readQuoted, slash, shown]
  | @escape mark _ meant =>
      have single : mark ≠ 'u' := by
        rintro rfl
        cases meant
      simp [readQuoted, meant]
  | unit value leading trailing =>
      simp [readQuoted, value, leading, trailing]
  | pair first second leading trailing =>
      simp [readQuoted, first, second, leading, trailing,
        isTrailing_of_isLeading leading]

theorem readQuoted_complete {written letters : List Char}
    (quotes : Quotes written letters) (taken rest : List Char) :
    readQuoted taken (written ++ '"' :: rest) =
      .ok (String.ofList (taken.reverse ++ letters), rest) := by
  induction quotes generalizing taken with
  | nil => simp [readQuoted]
  | cons writes _ induction =>
      rw [List.append_assoc, readQuoted_piece writes, induction]
      simp

/-- What a reader of a quoted text makes of what lies in front of the closing
quote. -/
def Closes (taken text : List Char) (content : String) (left : List Char) :
    Prop :=
  ∃ written letters,
    text = written ++ '"' :: left ∧ Quotes written letters ∧
      content = String.ofList (taken.reverse ++ letters)

private theorem Closes.piece {taken rest left piece : List Char} {letter : Char}
    {content : String} (writes : Writes piece letter)
    (closes : Closes (letter :: taken) rest content left) :
    Closes taken (piece ++ rest) content left := by
  obtain ⟨written, letters, rfl, quotes, rfl⟩ := closes
  refine ⟨piece ++ written, letter :: letters, ?_, .cons writes quotes, ?_⟩
  · rw [List.append_assoc]
  · simp

theorem readQuoted_sound {taken text left : List Char} {content : String}
    (read : readQuoted taken text = .ok (content, left)) :
    Closes taken text content left := by
  revert read
  fun_induction readQuoted taken text with
  | case2 taken rest =>
      intro read
      cases read
      exact ⟨[], [], rfl, .nil, by simp⟩
  | case9 taken _ _ _ _ leading first _ leads _ _ _ _ behind trailing second
      trails induction =>
      intro read
      exact .piece (.pair first second leads trails) (induction read)
  | case14 taken _ _ _ _ rest unit value trails leads induction =>
      intro read
      exact .piece
        (.unit value (Bool.eq_false_iff.mpr leads)
          (Bool.eq_false_iff.mpr trails))
        (induction read)
  | case16 taken letter rest single meant escapes induction =>
      intro read
      exact .piece (.escape escapes) (induction read)
  | case19 taken letter rest quote last unit pair shown induction =>
      intro read
      have slash : letter ≠ '\\' := by
        intro slash
        cases rest with
        | nil => exact last slash rfl
        | cons mark rest => exact pair mark rest slash rfl
      exact .piece (.plain quote slash (by omega)) (induction read)
  | _ =>
      intro read
      cases read

end Switchboard.Json

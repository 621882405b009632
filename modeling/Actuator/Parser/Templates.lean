import Actuator.Parser.BehaviorParser

/-!
# The pieces of a template

The rounds of `replaceVariables` cut a text into placeholders and what is
between them. The text after the replacement is made up of the same pieces, with
the text of its name in the place of every placeholder that has one.
-/

namespace Actuator.Parser

open Actuator.Lib Actuator.Core

inductive TemplatePiece where
  | plain (text : Str)
  | hole (varName : Str)
deriving DecidableEq

namespace TemplatePiece

/-- How the piece is written. -/
def source : TemplatePiece → Str
  | plain text => text
  | hole varName => placeholder varName

/-- What becomes of the piece. -/
def fill (params : StrMap) : TemplatePiece → Str
  | plain text => text
  | hole varName => (params.find? varName).getD (placeholder varName)

end TemplatePiece

/-- The pieces found in so many rounds. -/
def piecesLoop : Nat → Str → List TemplatePiece
  | 0, rest => [.plain rest]
  | fuel + 1, rest =>
    match find? (lit "$\x7b") rest with
    | none => [.plain rest]
    | some pos =>
      let inside := rest.drop (pos + 2)
      match find? (lit "\x7d") inside with
      | none => [.plain rest]
      | some length => .plain (rest.take pos) :: .hole (inside.take length) :: piecesLoop fuel (inside.drop (length + 1))

/-- The pieces of a text. -/
def templatePieces (text : Str) : List TemplatePiece := piecesLoop text.length text

/-- A pattern found in a text stands where it was found. -/
theorem eq_around_of_find? {pattern : Str} {s : Str} {pos : Nat} (found : find? pattern s = some pos) :
    s = s.take pos ++ (pattern ++ s.drop (pos + pattern.length)) := by
  induction s generalizing pos with
  | nil =>
    unfold find? at found
    split at found
    · rename_i empty
      cases found
      rw [List.isEmpty_iff.1 empty]
      rfl
    · cases found
  | cons c s ih =>
    unfold find? at found
    split at found
    · rename_i front
      cases found
      obtain ⟨rest, shape⟩ := List.isPrefixOf_iff_prefix.1 front
      rw [List.take_zero, List.nil_append, Nat.zero_add, ← shape, List.drop_left]
    · obtain ⟨later, behind, rfl⟩ := Option.map_eq_some_iff.1 found
      rw [List.take_succ_cons, Nat.add_right_comm, List.drop_succ_cons, List.cons_append, ← ih behind]

/-- Every piece is written in the text, one behind the other. -/
theorem source_templatePieces (text : Str) : (templatePieces text).flatMap TemplatePiece.source = text := by
  have loop : ∀ fuel (rest : Str), (piecesLoop fuel rest).flatMap TemplatePiece.source = rest := by
    intro fuel
    induction fuel with
    | zero => exact fun rest => List.append_nil rest
    | succ fuel ih =>
      intro rest
      rw [piecesLoop]
      cases opening : find? (lit "$\x7b") rest with
      | none => exact List.append_nil rest
      | some pos =>
        have front := eq_around_of_find? opening
        dsimp only
        cases closing : find? (lit "\x7d") (rest.drop (pos + 2)) with
        | none => exact List.append_nil rest
        | some length =>
          have back := eq_around_of_find? closing
          simp only [List.flatMap_cons, ih]
          conv => rhs; rw [front]
          refine congrArg (rest.take pos ++ ·) ?_
          show placeholder _ ++ _ = lit "$\x7b" ++ rest.drop (pos + 2)
          conv => rhs; rw [back]
          simp only [placeholder, List.append_assoc]
          rfl
  exact loop _ text

/-- `replaceVariables` fills every piece. -/
theorem replaceVariables_eq (text : Str) (params : StrMap) :
    replaceVariables text params = (templatePieces text).flatMap (TemplatePiece.fill params) := by
  have loop : ∀ fuel (done rest : Str),
      replaceLoop params fuel done rest = done ++ (piecesLoop fuel rest).flatMap (TemplatePiece.fill params) := by
    intro fuel
    induction fuel with
    | zero =>
      intro done rest
      exact congrArg (done ++ ·) (List.append_nil rest).symm
    | succ fuel ih =>
      intro done rest
      rw [replaceLoop, piecesLoop]
      cases opening : find? (lit "$\x7b") rest with
      | none => exact congrArg (done ++ ·) (List.append_nil rest).symm
      | some pos =>
        dsimp only
        cases closing : find? (lit "\x7d") (rest.drop (pos + 2)) with
        | none => exact congrArg (done ++ ·) (List.append_nil rest).symm
        | some length =>
          simp only [List.flatMap_cons, ih, List.append_assoc]
          refine congrArg (done ++ ·) (congrArg (rest.take pos ++ ·) ?_)
          refine congrArg (· ++ _) ?_
          show _ = (params.find? ((rest.drop (pos + 2)).take length)).getD (placeholder _)
          cases params.find? ((rest.drop (pos + 2)).take length) with
          | none => exact (List.append_assoc _ _ _).symm
          | some value => rfl
  exact (loop _ [] text).trans (List.nil_append _)

end Actuator.Parser

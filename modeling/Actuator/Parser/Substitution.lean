import Actuator.Parser.Templates
import Mathlib.Logic.Relation

/-!
# Substitution in one pass

`replaceVariables` edits the text it is scanning. It terminates nevertheless,
and what it returns is the substitution that reads the text once, left to right
(`instantiate_substitutes`).
-/

namespace Actuator.Parser

open Actuator.Lib Actuator.Core

variable (params : StrMap)

/-- The substitution, read off the text from left to right. -/
inductive Substitutes : Str → Str → Prop
  | nil : Substitutes [] []
  | plain {c : UInt8} {text out : Str} (elsewhere : ¬ lit "$\x7b" <+: c :: text) (later : Substitutes text out) :
      Substitutes (c :: text) (c :: out)
  | closed {varName text out : Str} (first : ch '}' ∉ varName) (later : Substitutes text out) :
      Substitutes (placeholder varName ++ text) ((params.find? varName).getD (placeholder varName) ++ out)
  | unclosed {rest : Str} (never : ch '}' ∉ rest) : Substitutes (lit "$\x7b" ++ rest) (lit "$\x7b" ++ rest)

/-! ## The loop -/

/-- The variables of the loop of `replaceVariables`. -/
structure Editing where
  result : Str
  pos : Nat

/-- `find` from a position on. -/
def findFrom (pattern : Str) (pos : Nat) (s : Str) : Option Nat := (find? pattern (s.drop pos)).map (pos + ·)

/-- One round of the loop, or `none` where it ends. -/
def replaceStep (st : Editing) : Option Editing :=
  match findFrom (lit "$\x7b") st.pos st.result with
  | none => none
  | some pos =>
    match findFrom (lit "\x7d") pos st.result with
    | none => none
    | some endPos =>
      let varName := (st.result.drop (pos + 2)).take (endPos - pos - 2)
      match params.find? varName with
      | some value => some {
          result := st.result.take pos ++ value ++ st.result.drop (endPos + 1)
          pos := pos + value.length }
      | none => some { st with pos := endPos + 1 }

/-- The rounds from one state to another. -/
def Rounds : Editing → Editing → Prop := Relation.ReflTransGen fun st st' => replaceStep params st = some st'

variable {params}

/-! ## One round -/

theorem find?_closing (rest : Str) :
    (find? (lit "\x7d") rest = none ∧ ch '}' ∉ rest) ∨
      ∃ varName later, rest = varName ++ ch '}' :: later ∧ ch '}' ∉ varName ∧
        find? (lit "\x7d") rest = some varName.length := by
  by_cases closes : ch '}' ∈ rest
  · right
    obtain ⟨varName, later, rfl, first⟩ := List.eq_append_cons_of_mem closes
    exact ⟨varName, later, rfl, first, find?_byte first later⟩
  · left
    refine ⟨?_, closes⟩
    cases found : find? (lit "\x7d") rest with
    | none => rfl
    | some pos =>
      have around := eq_around_of_find? found
      refine absurd ?_ closes
      rw [around]
      exact List.mem_append_right _ (List.mem_append_left _ (by decide))

theorem findFrom_append (pattern done rest : Str) :
    findFrom pattern done.length (done ++ rest) = (find? pattern rest).map (done.length + ·) := by
  unfold findFrom
  rw [List.drop_left]

theorem findFrom_closing (done tail : Str) :
    findFrom (lit "\x7d") done.length (done ++ (lit "$\x7b" ++ tail)) =
      (find? (lit "\x7d") tail).map (done.length + 2 + ·) := by
  have opened : find? (lit "\x7d") (lit "$\x7b" ++ tail) = ((find? (lit "\x7d") tail).map (· + 1)).map (· + 1) := rfl
  rw [findFrom_append, opened, Option.map_map, Option.map_map]
  apply congrArg (Option.map · _)
  funext length
  show done.length + (length + 1 + 1) = done.length + 2 + length
  omega

/-- From the position on, there is no opening brace, or the first one is not closed, or it is. -/
inductive Next (params : StrMap) (done : Str) : Str → Prop
  | last {rest : Str} (out : Substitutes params rest rest)
      (ends : replaceStep params ⟨done ++ rest, done.length⟩ = none) : Next params done rest
  | round {front varName later : Str}
      (opening : find? (lit "$\x7b") (front ++ (placeholder varName ++ later)) = some front.length)
      (first : ch '}' ∉ varName)
      (step : replaceStep params ⟨done ++ (front ++ (placeholder varName ++ later)), done.length⟩ =
        let edited := done ++ front ++ (params.find? varName).getD (placeholder varName)
        some ⟨edited ++ later, edited.length⟩) : Next params done (front ++ (placeholder varName ++ later))

/-- A text in front of the first opening brace is copied. -/
theorem substitutes_front {front rest out : Str}
    (opening : find? (lit "$\x7b") (front ++ rest) = some front.length) (later : Substitutes params rest out) :
    Substitutes params (front ++ rest) (front ++ out) := by
  induction front with
  | nil => exact later
  | cons c front ih =>
    rw [List.cons_append, find?] at opening
    split at opening
    · cases opening
    · rename_i elsewhere
      obtain ⟨pos, behind, same⟩ := Option.map_eq_some_iff.1 opening
      cases same
      exact .plain (fun front => elsewhere (List.isPrefixOf_iff_prefix.2 front)) (ih behind)

theorem substitutes_plain {text : Str} (none : find? (lit "$\x7b") text = none) : Substitutes params text text := by
  induction text with
  | nil => exact .nil
  | cons c text ih =>
    rw [find?] at none
    split at none
    · cases none
    · rename_i elsewhere
      exact .plain (fun front => elsewhere (List.isPrefixOf_iff_prefix.2 front)) (ih (Option.map_eq_none_iff.1 none))

/-- Where the first opening brace is, the text splits. -/
theorem opened_of_find? {rest : Str} {pos : Nat} (opening : find? (lit "$\x7b") rest = some pos) :
    ∃ front tail, rest = front ++ (lit "$\x7b" ++ tail) ∧ front.length = pos := by
  have around := eq_around_of_find? opening
  refine ⟨_, _, around, ?_⟩
  have size := congrArg List.length around
  have two : (lit "$\x7b").length = 2 := rfl
  rw [List.length_append, List.length_append, two] at size
  rw [List.length_take] at size ⊢
  omega

/-- A round at an opening brace, by the first closing brace behind it. -/
theorem replaceStep_opened (params : StrMap) (done : Str) {front tail : Str}
    (opening : find? (lit "$\x7b") (front ++ (lit "$\x7b" ++ tail)) = some front.length) :
    replaceStep params ⟨done ++ (front ++ (lit "$\x7b" ++ tail)), done.length⟩ =
      (find? (lit "\x7d") tail).map fun length =>
        match params.find? (tail.take length) with
        | some value => ⟨done ++ front ++ value ++ tail.drop (length + 1), (done ++ front ++ value).length⟩
        | none => ⟨done ++ front ++ (lit "$\x7b" ++ tail), (done ++ front).length + 2 + length + 1⟩ := by
  have opens : findFrom (lit "$\x7b") done.length (done ++ front ++ (lit "$\x7b" ++ tail)) =
      some (done ++ front).length := by
    rw [List.append_assoc, findFrom_append, opening, List.length_append]
    rfl
  have behind : ∀ n, (done ++ front ++ (lit "$\x7b" ++ tail)).drop ((done ++ front).length + 2 + n) = tail.drop n := by
    intro n
    rw [Nat.add_assoc, List.drop_length_add_append, Nat.add_comm]
    rfl
  rw [← List.append_assoc]
  unfold replaceStep
  simp only [opens, findFrom_closing]
  cases find? (lit "\x7d") tail with
  | none => rfl
  | some length =>
    have size : (done ++ front).length + 2 + length - (done ++ front).length - 2 = length := by omega
    have name : (done ++ front ++ (lit "$\x7b" ++ tail)).drop ((done ++ front).length + 2) = tail := behind 0
    simp only [Option.map_some, size, name]
    cases params.find? (tail.take length) with
    | none => rfl
    | some value =>
      show some (Editing.mk _ ((done ++ front).length + value.length)) = _
      rw [List.take_left, Nat.add_assoc _ length 1, behind, ← List.length_append]

theorem length_placeholder (varName : Str) : (placeholder varName).length = varName.length + 3 := by
  unfold placeholder
  rw [List.length_append, List.length_append]
  show 2 + varName.length + 1 = _
  omega

theorem next (params : StrMap) (done rest : Str) : Next params done rest := by
  cases opening : find? (lit "$\x7b") rest with
  | none =>
    refine .last (substitutes_plain opening) ?_
    unfold replaceStep
    rw [findFrom_append, opening]
    rfl
  | some pos =>
    obtain ⟨front, tail, rfl, rfl⟩ := opened_of_find? opening
    have step := replaceStep_opened params done opening
    rcases find?_closing tail with ⟨none, never⟩ | ⟨varName, later, rfl, first, found⟩
    · rw [none] at step
      exact .last (substitutes_front opening (.unclosed never)) step
    · have text : lit "$\x7b" ++ (varName ++ ch '}' :: later) = placeholder varName ++ later := by
        simp only [placeholder, List.append_assoc]
        rfl
      have name : (varName ++ ch '}' :: later).take varName.length = varName := List.take_left
      have after : (varName ++ ch '}' :: later).drop (varName.length + 1) = later := by
        rw [List.drop_length_add_append]
        rfl
      rw [found, Option.map_some, name, after, text] at step
      rw [text] at opening ⊢
      refine .round opening first (step.trans ?_)
      cases params.find? varName with
      | none =>
        have size : (done ++ front).length + 2 + varName.length + 1 = (done ++ front ++ placeholder varName).length := by
          simp only [List.length_append, length_placeholder]
          omega
        exact congrArg some (congrArg₂ Editing.mk (List.append_assoc _ _ _).symm size)
      | some value => rfl

/-! ## All rounds -/

/-- A round brings the position closer to the end of the text, which may have grown. -/
theorem replaceStep_advances {st st' : Editing} (step : replaceStep params st = some st') :
    st'.result.length - st'.pos < st.result.length - st.pos := by
  obtain ⟨result, pos⟩ := st
  by_cases inside : pos ≤ result.length
  · obtain ⟨done, rest, rfl, rfl⟩ : ∃ done rest, result = done ++ rest ∧ done.length = pos :=
      ⟨_, _, (List.take_append_drop pos result).symm, List.length_take_of_le inside⟩
    cases next params done rest with
    | last _ ends =>
      rw [ends] at step
      cases step
    | round _ _ round =>
      rw [round] at step
      cases step
      simp only [List.length_append, length_placeholder]
      omega
  · have behind : result.drop pos = [] := List.drop_eq_nil_of_le (by omega)
    unfold replaceStep findFrom at step
    rw [behind] at step
    cases step

/-- The rounds end with the substitution of the text behind the position. -/
theorem rounds_substitute (params : StrMap) (n : Nat) : ∀ done rest : Str, rest.length < n →
    ∃ st out, Rounds params ⟨done ++ rest, done.length⟩ st ∧ replaceStep params st = none ∧
      Substitutes params rest out ∧ st.result = done ++ out := by
  induction n with
  | zero => exact fun _ _ low => absurd low (Nat.not_lt_zero _)
  | succ n ih =>
    intro done rest low
    cases next params done rest with
    | last out ends => exact ⟨_, rest, .refl, ends, out, rfl⟩
    | @round front varName later opening first step =>
      rw [List.length_append, List.length_append, length_placeholder] at low
      obtain ⟨st, out, rounds, ends, substitutes, result⟩ :=
        ih (done ++ front ++ (params.find? varName).getD (placeholder varName)) later (by omega)
      refine ⟨st, _, .head step rounds, ends, substitutes_front opening (.closed first substitutes), ?_⟩
      rw [result, List.append_assoc, List.append_assoc]

/-- A character that opens nothing is passed without a round. -/
theorem replaceLoop_plain {c : UInt8} {text : Str} (elsewhere : ¬ lit "$\x7b" <+: c :: text) (fuel : Nat) (done : Str) :
    replaceLoop params (fuel + 1) done (c :: text) = replaceLoop params (fuel + 1) (done ++ [c]) text := by
  have shape : ∀ s : Str, done ++ c :: s = done ++ [c] ++ s := fun s => by simp
  have first : find? (lit "$\x7b") (c :: text) = (find? (lit "$\x7b") text).map (· + 1) := by
    rw [find?, if_neg fun front => elsewhere (List.isPrefixOf_iff_prefix.1 front)]
  rw [replaceLoop, replaceLoop, first]
  cases find? (lit "$\x7b") text with
  | none => exact shape text
  | some pos =>
    have inside : (c :: text).drop (pos + 1 + 2) = text.drop (pos + 2) := rfl
    have front : (c :: text).take (pos + 1) = c :: text.take pos := rfl
    simp only [Option.map_some, inside, front]
    rw [shape text, shape (text.take pos)]

theorem replaceLoop_closed {varName : Str} (first : ch '}' ∉ varName) (text : Str) (fuel : Nat) (done : Str) :
    replaceLoop params (fuel + 1) done (placeholder varName ++ text) =
      replaceLoop params fuel (done ++ (params.find? varName).getD (placeholder varName)) text := by
  have opening : find? (lit "$\x7b") (placeholder varName ++ text) = some 0 := rfl
  have inside : (placeholder varName ++ text).drop (0 + 2) = varName ++ ch '}' :: text := by
    show varName ++ lit "\x7d" ++ text = _
    exact List.append_assoc _ _ _
  have closing : find? (lit "\x7d") (varName ++ ch '}' :: text) = some varName.length := find?_byte first text
  have after : (varName ++ ch '}' :: text).drop (varName.length + 1) = text := by
    rw [List.drop_length_add_append]
    rfl
  rw [replaceLoop, opening]
  simp only [inside, closing, after, List.take_left', List.take_zero, List.append_nil]
  cases params.find? varName with
  | none => rfl
  | some value => rfl

/-- The substitution determines what the loop of the model returns. -/
theorem replaceLoop_of_substitutes {text out : Str} (substitutes : Substitutes params text out) :
    ∀ (fuel : Nat) (done : Str), text.length ≤ fuel → replaceLoop params fuel done text = done ++ out := by
  induction substitutes with
  | nil =>
    intro fuel done _
    rw [replaceLoop_nil, List.append_nil]
  | @plain c text out elsewhere later ih =>
    intro fuel done enough
    obtain ⟨fuel, rfl⟩ := Nat.exists_eq_add_one.2 (Nat.lt_of_lt_of_le (Nat.zero_lt_succ text.length) enough)
    rw [List.length_cons] at enough
    rw [replaceLoop_plain elsewhere, ih (fuel + 1) _ (by omega), List.append_assoc]
    rfl
  | @closed varName text out first later ih =>
    intro fuel done enough
    rw [List.length_append, length_placeholder] at enough
    obtain ⟨fuel, rfl⟩ := Nat.exists_eq_add_one.2 (show 0 < fuel by omega)
    rw [replaceLoop_closed first, ih fuel _ (by omega), List.append_assoc]
  | @unclosed rest never =>
    intro fuel done enough
    rcases find?_closing rest with ⟨none, _⟩ | ⟨varName, later, rfl, _, _⟩
    · cases fuel with
      | zero => rfl
      | succ fuel =>
        have opening : find? (lit "$\x7b") (lit "$\x7b" ++ rest) = some 0 := rfl
        have inside : (lit "$\x7b" ++ rest).drop (0 + 2) = rest := rfl
        rw [replaceLoop, opening]
        simp only [inside, none]
    · exact absurd (List.mem_append_right _ List.mem_cons_self) never

/-- `replaceVariables` is the substitution. -/
theorem substitutes_iff (text out : Str) : Substitutes params text out ↔ out = replaceVariables text params := by
  have determined : ∀ {out}, Substitutes params text out → replaceVariables text params = out :=
    fun substitutes => replaceLoop_of_substitutes substitutes text.length [] le_rfl
  constructor
  · exact fun substitutes => (determined substitutes).symm
  · rintro rfl
    obtain ⟨_, out, _, _, substitutes, _⟩ := rounds_substitute params (text.length + 1) [] text (Nat.lt_succ_self _)
    rw [determined substitutes]
    exact substitutes

/-! ## The tree -/

/-- The members of a node behind the substitution. -/
structure SubstitutedData (params : StrMap) (data data' : NodeData) : Prop where
  others : data' =
    { data with params := data'.params, command := data'.command, expression := data'.expression }
  paramTexts : ∀ k out, data'.params.find? k = some out ↔
    ∃ text, data.params.find? k = some text ∧ Substitutes params text out
  command : Substitutes params data.command data'.command
  expression : ∃ out, Substitutes params data.expression out ∧
    (data.type = .condition ∧ out = [] ∧ data.observation.isEmpty = false → data'.expression = lit "true") ∧
    (¬ (data.type = .condition ∧ out = [] ∧ data.observation.isEmpty = false) → data'.expression = out)

/-- A tree of the same shape, with its members substituted. -/
inductive SubstitutedTree (params : StrMap) : BehaviorNode → BehaviorNode → Prop
  | node {data data' : NodeData} {children children' : List BehaviorNode} (members : SubstitutedData params data data')
      (below : List.Forall₂ (SubstitutedTree params) children children') :
      SubstitutedTree params (.mk data children) (.mk data' children')

theorem expandData_substituted (params : StrMap) (data : NodeData) :
    SubstitutedData params data (expandData params data) where
  others := rfl
  paramTexts k out := by
    show (data.params.mapValues fun text => replaceVariables text params).find? k = some out ↔ _
    rw [OrdMap.find?_mapValues, Option.map_eq_some_iff]
    apply exists_congr
    intro text
    rw [substitutes_iff]
    exact and_congr_right fun _ => eq_comm
  command := (substitutes_iff _ _).2 rfl
  expression := by
    have some : data.observation.isEmpty = false ↔ ¬data.observation.isEmpty = true := (Bool.not_eq_true _).symm.to_iff
    refine ⟨_, (substitutes_iff _ _).2 rfl, fun bare => ?_, fun given => ?_⟩
    · rw [some, ← List.isEmpty_iff] at bare
      exact if_pos bare
    · rw [some, ← List.isEmpty_iff] at given
      exact if_neg given

mutual

theorem expandNode_substituted (params : StrMap) : ∀ node, SubstitutedTree params node (expandNode params node)
  | .mk data children => by
    unfold expandNode
    exact .node (expandData_substituted params data) (expandNodes_substituted params children)

theorem expandNodes_substituted (params : StrMap) :
    ∀ nodes, List.Forall₂ (SubstitutedTree params) nodes (expandNodes params nodes)
  | [] => by
    unfold expandNodes
    exact .nil
  | node :: nodes => by
    unfold expandNodes
    exact .cons (expandNode_substituted params node) (expandNodes_substituted params nodes)

end

/-- For every text and every parameters, the loop of `replaceVariables` ends, and with the substitution in one pass.
`instantiate` returns one tree, which is the definition with this substitution. -/
theorem instantiate_substitutes :
    (∀ (params : StrMap) (text : Str),
      WellFounded (fun st' st => replaceStep params st = some st') ∧
      (∃ st, Rounds params ⟨text, 0⟩ st ∧ replaceStep params st = none ∧ st.result = replaceVariables text params) ∧
      ∀ out, Substitutes params text out ↔ out = replaceVariables text params) ∧
    ∀ definition params, ∃ tree, instantiate definition params = [tree] ∧
      SubstitutedTree (buildTemplateParams definition params) definition tree := by
  refine ⟨fun params text => ⟨?_, ?_, substitutes_iff text⟩, fun definition params => ⟨_, rfl, expandNode_substituted _ _⟩⟩
  · exact Subrelation.wf replaceStep_advances (InvImage.wf (fun st : Editing => st.result.length - st.pos) Nat.lt_wfRel.wf)
  · obtain ⟨st, out, rounds, ends, substitutes, result⟩ :=
      rounds_substitute params (text.length + 1) [] text (Nat.lt_succ_self _)
    exact ⟨st, rounds, ends, result.trans ((substitutes_iff text out).1 substitutes)⟩

end Actuator.Parser

import Actuator.Constraint.Rendering
import Actuator.Executor.TreeRules

/-!
# White space around a command

A command is recognised by its trimmed text, but `SETVAR` cuts its operands out
of the text as given, from the seventh character on, and the failures of an
unknown or malformed command quote that text. So white space around a command
makes no difference to the commands without operands of their own, and in front
of a `SETVAR` command it moves the end of the keyword into the name.
-/

namespace Actuator.Executor

open Actuator.Lib Actuator.Core
open Actuator.Constraint (isWordChar not_wordChar_of_isSpace)

variable {D : Type}

/-- The commands that are known by their name alone. -/
def plainCommands : List Str :=
  [lit "NO_OP", lit "ASSIGN", lit "MOVE_TO", lit "SEND", lit "RECEIVE", lit "EMIT_COMMAND", lit "NEXT_TASK",
    lit "REPORT_TARGET", lit "EXIT"]

/-- The command as given and its trimmed text do the same, and a command that trims to `setvar n = e` assigns the value
of `e` to `n`. -/
structure TrimsAlike [CxxDouble D] (env : Environment D) (command : Str) (params : StrMap) (s : ExecState D) : Prop where
  same : executeBuiltinCommand env command params s = executeBuiltinCommand env (trim command) params s
  assigns : ∀ keyword n e v, keyword.map toUpper = lit "SETVAR" → n ≠ [] → (∀ c ∈ n, isWordChar c = true) →
    trim command = keyword ++ lit " " ++ n ++ lit " = " ++ e → evaluateValueExpression s.vm e = .ok v →
    executeBuiltinCommand env command params s =
      (.ok { success := true, outputs := OrdMap.empty.insert n v }, { s with vm := s.vm.set n v .global })

/-- How much white space stands in front of a command. -/
def margin (command : Str) : Nat := (command.takeWhile isSpace).length

/-- The trimmed command is an assignment, and the characters in front of its name that the margin moves into the name are
white space; or its expression raises an exception, whatever the name. -/
def MarginHarmless [CxxDouble D] (command : Str) (vm : VariableManager D) : Prop :=
  ∃ eqPos, find? (lit "=") (trim command) = some eqPos ∧ 6 < eqPos ∧
    ((∀ c ∈ (command.drop 6).take (margin command), isSpace c = true) ∨
      (setvarName (trim command) eqPos ≠ [] ∧
        ∃ what, evaluateValueExpression vm (setvarExpression (trim command) eqPos) = .error what))

/-- The command has no white space around it, or none that is looked at. -/
def Harmless [CxxDouble D] (command : Str) (vm : VariableManager D) : Prop :=
  trim command = command ∨ commandName command ∈ plainCommands ∨
    (occurs (lit "SETVAR") (commandName command) = true ∧ MarginHarmless command vm)

/-! ## The name of a command -/

theorem commandName_trim (command : Str) : commandName (trim command) = commandName command := by
  unfold commandName
  rw [trim_trim]

section Dispatch

variable [CxxDouble D] {env : Environment D} {command other : Str} {params : StrMap}

/-- A plain command is its name. -/
theorem executeBuiltinCommand_plain (plain : commandName command ∈ plainCommands)
    (same : commandName other = commandName command) :
    executeBuiltinCommand env other params = executeBuiltinCommand env command params := by
  unfold executeBuiltinCommand
  rw [show (trim other).map toUpper = (trim command).map toUpper from same]
  change (trim command).map toUpper ∈ plainCommands at plain
  generalize (trim command).map toUpper = name at plain
  simp only [plainCommands, List.mem_cons, List.not_mem_nil, or_false] at plain
  rcases plain with rfl | rfl | rfl | rfl | rfl | rfl | rfl | rfl | rfl <;> rfl

/-- Any other command is a `SETVAR` or unknown. -/
theorem executeBuiltinCommand_other (other : commandName command ∉ plainCommands) :
    executeBuiltinCommand env command params =
      if occurs (lit "SETVAR") (commandName command) then setvar command
      else pure (.ofFailure (lit "不支持的命令: " ++ command) []) := by
  unfold executeBuiltinCommand commandName
  unfold commandName at other
  generalize (trim command).map toUpper = name at other
  simp only [plainCommands, List.mem_cons, List.not_mem_nil, or_false, not_or] at other
  obtain ⟨h1, h2, h3, h4, h5, h6, h7, h8, h9⟩ := other
  dsimp only
  rw [if_neg h1, if_neg h2, if_neg h3, if_neg h4, if_neg h5, if_neg h6, if_neg h7, if_neg h8, if_neg h9]

end Dispatch

/-! ## What `SETVAR` makes of a text -/

def setvarMalformed (command : Str) : ExecutionResult D := .ofFailure (lit "setvar 命令格式错误: " ++ command) []

theorem setvarMalformed_ne (command : Str) :
    setvarMalformed (D := D) command ≠ .ofFailure (lit "setvar 缺少变量名") [] := by
  intro same
  have message : lit "setvar 命令格式错误: " ++ command = lit "setvar 缺少变量名" := congrArg ExecutionResult.message same
  have eighth : (lit "setvar 命令格式错误: " ++ command)[7]? = (lit "setvar 缺少变量名")[7]? := by rw [message]
  rw [List.getElem?_append_left (by decide)] at eighth
  revert eighth
  decide

section Setvar

variable [CxxDouble D] {command : Str} (s : ExecState D)

/-- Without an equals sign behind the keyword. -/
theorem setvar_malformed (none : ∀ eqPos, find? (lit "=") command = some eqPos → eqPos ≤ 6) :
    setvar command s = (.ok (setvarMalformed command), s) := by
  unfold setvar
  cases found : find? (lit "=") command with
  | none => rfl
  | some eqPos =>
    dsimp only
    rw [if_neg (Nat.not_lt.2 (none eqPos found))]
    rfl

variable {eqPos : Nat}

omit [CxxDouble D] in
theorem setvar_early (found : find? (lit "=") command = some eqPos) (early : ¬6 < eqPos) :
    ∀ i, find? (lit "=") command = some i → i ≤ 6 := by
  intro i same
  cases found.symm.trans same
  exact Nat.le_of_not_lt early

variable (found : find? (lit "=") command = some eqPos) (behind : 6 < eqPos)

include found behind in
theorem setvar_unnamed (unnamed : setvarName command eqPos = []) :
    setvar command s = (.ok (.ofFailure (lit "setvar 缺少变量名") []), s) := by
  unfold setvar
  simp only [found, if_pos behind]
  rw [show trim ((command.drop 6).take (eqPos - 6)) = [] from unnamed]
  rfl

include found behind in
/-- With a name, the expression decides. -/
theorem setvar_named (named : setvarName command eqPos ≠ []) :
    setvar command s =
      match evaluateValueExpression s.vm (setvarExpression command eqPos) with
      | .ok v => (.ok { success := true, outputs := OrdMap.empty.insert (setvarName command eqPos) v },
          { s with vm := s.vm.set (setvarName command eqPos) v .global })
      | .error what => (.error what, s) := by
  unfold setvar
  simp only [found, if_pos behind]
  change (if (setvarName command eqPos).isEmpty then _ else _ : Exec D _) s = _
  rw [if_neg (mt List.isEmpty_iff.1 named)]
  have read : Effect.readThrowing (fun s => evaluateValueExpression s.vm (setvarExpression command eqPos)) s =
      (evaluateValueExpression s.vm (setvarExpression command eqPos), s) := rfl
  cases value : evaluateValueExpression s.vm (setvarExpression command eqPos) with
  | ok v =>
    rw [value] at read
    exact Effect.bind_run_ok read
  | error what =>
    rw [value] at read
    exact Effect.bind_run_error read

include found behind in
/-- With a name, `SETVAR` does not return a failure. -/
theorem setvar_named_ne (named : setvarName command eqPos ≠ []) (message : Str) :
    setvar command s ≠ (.ok (.ofFailure message []), s) := by
  rw [setvar_named s found behind named]
  intro same
  cases value : evaluateValueExpression s.vm (setvarExpression command eqPos) with
  | ok v =>
    rw [value] at same
    have success := congrArg ExecutionResult.success (Except.ok.inj (congrArg Prod.fst same))
    cases success
  | error what =>
    rw [value] at same
    cases same

end Setvar

/-! ## White space in front of and behind a command -/

/-- How the text of a command stands to what is left when it is trimmed. -/
structure Surrounded (front command behind : Str) : Prop where
  whole : command = front ++ trim command ++ behind
  length : front.length = margin command
  before : ∀ c ∈ front, isSpace c = true
  after : ∀ c ∈ behind, isSpace c = true

theorem exists_surrounded (command : Str) : ∃ front behind, Surrounded front command behind := by
  obtain ⟨front, behind, whole, rfl, before, after⟩ := exists_around_trim command
  exact ⟨_, behind, whole, rfl, before, after⟩

namespace Surrounded

variable {front command behind : Str} {eqPos : Nat} (surrounded : Surrounded front command behind)

include surrounded

theorem drop_margin : command.drop (margin command) = trim command ++ behind := by
  have cut := congrArg (List.drop front.length) surrounded.whole
  rwa [List.append_assoc, List.drop_left, surrounded.length] at cut

/-- The equals sign is found behind the margin. -/
theorem find?_eq : find? (lit "=") command = (find? (lit "=") (trim command)).map (margin command + ·) := by
  have none : ∀ blanks : Str, (∀ c ∈ blanks, isSpace c = true) → ch '=' ∉ blanks := by
    intro blanks blank mem
    cases blank _ mem
  have around := find?_byte_around (none _ surrounded.before) (none _ surrounded.after) (trim command)
  rwa [← surrounded.whole, surrounded.length] at around

variable (found : find? (lit "=") (trim command) = some eqPos)

include found

/-- The expression is the same. -/
theorem expression : setvarExpression command (margin command + eqPos) = setvarExpression (trim command) eqPos := by
  have inside := find?_byte_lt found
  unfold setvarExpression
  have cut : command.drop (margin command + eqPos + 1) = (trim command).drop (eqPos + 1) ++ behind := by
    rw [Nat.add_assoc, ← List.drop_drop, surrounded.drop_margin, List.drop_append_of_le_length inside]
  rw [cut, trim_append_blank _ surrounded.after]

variable (assigns : 6 < eqPos)

include assigns

/-- The name as cut out of the text as given: the characters that the margin moves into it come first. -/
theorem name : setvarName command (margin command + eqPos) =
    trim ((command.drop 6).take (margin command) ++ ((trim command).drop 6).take (eqPos - 6)) := by
  have inside := find?_byte_lt found
  have rest : (command.drop 6).drop (margin command) = (trim command).drop 6 ++ behind := by
    rw [List.drop_drop, Nat.add_comm, ← List.drop_drop, surrounded.drop_margin, List.drop_append_of_le_length (by omega)]
  unfold setvarName
  rw [show margin command + eqPos - 6 = margin command + (eqPos - 6) by omega, List.take_add, rest,
    List.take_append_of_le_length (by rw [List.length_drop]; omega)]

theorem name_eq_iff : setvarName command (margin command + eqPos) = setvarName (trim command) eqPos ↔
    ∀ c ∈ (command.drop 6).take (margin command), isSpace c = true := by
  rw [surrounded.name found assigns]
  exact trim_append_eq_iff _ _

theorem named (trimmed : setvarName (trim command) eqPos ≠ []) : setvarName command (margin command + eqPos) ≠ [] := by
  intro unnamed
  rw [surrounded.name found assigns, trim_eq_nil_iff] at unnamed
  exact trimmed ((trim_eq_nil_iff _).2 fun c mem => unnamed c (List.mem_append_right _ mem))

end Surrounded

/-! ## When the text as given does the same -/

section Same

variable [CxxDouble D] {command : Str} (s : ExecState D)

/-- Two assignments with the same expression do the same if they have the same name, or no value. -/
theorem setvar_eq_iff {other : Str} {i j : Nat} (found : find? (lit "=") command = some i) (behind : 6 < i)
    (named : setvarName command i ≠ []) (found' : find? (lit "=") other = some j) (behind' : 6 < j)
    (named' : setvarName other j ≠ []) (expression : setvarExpression command i = setvarExpression other j) :
    setvar command s = setvar other s ↔ setvarName command i = setvarName other j ∨
      ∃ what, evaluateValueExpression s.vm (setvarExpression other j) = .error what := by
  rw [setvar_named s found behind named, setvar_named s found' behind' named', expression]
  cases evaluateValueExpression s.vm (setvarExpression other j) with
  | error what => exact iff_of_true rfl (.inr ⟨what, rfl⟩)
  | ok v =>
    constructor
    · intro same
      have outputs := congrArg ExecutionResult.outputs (Except.ok.inj (congrArg Prod.fst same))
      by_contra differ
      obtain ⟨other, -⟩ := not_or.1 differ
      have held := congrArg (OrdMap.find? · (setvarName command i)) outputs
      dsimp only at held
      rw [OrdMap.find?_insert_self, OrdMap.find?_insert_of_ne _ _ other] at held
      cases held
    · rintro (same | ⟨what, none⟩)
      · rw [same]
      · cases none

/-- For an assignment it depends on the characters that the margin moves into the name. -/
theorem setvar_same_iff {front behind : Str} (surrounded : Surrounded front command behind) {eqPos : Nat}
    (found : find? (lit "=") (trim command) = some eqPos) (assigns : 6 < eqPos) :
    setvar command s = setvar (trim command) s ↔
      (∀ c ∈ (command.drop 6).take (margin command), isSpace c = true) ∨
        (setvarName (trim command) eqPos ≠ [] ∧
          ∃ what, evaluateValueExpression s.vm (setvarExpression (trim command) eqPos) = .error what) := by
  have found' : find? (lit "=") command = some (margin command + eqPos) := by
    rw [surrounded.find?_eq, found]
    rfl
  rw [← surrounded.name_eq_iff found assigns]
  by_cases unnamed : setvarName (trim command) eqPos = []
  · rw [setvar_unnamed s found assigns unnamed, unnamed]
    by_cases unnamed' : setvarName command (margin command + eqPos) = []
    · rw [setvar_unnamed s found' (by omega) unnamed']
      exact iff_of_true rfl (.inl unnamed')
    · refine iff_of_false (setvar_named_ne s found' (by omega) unnamed' _) ?_
      rintro (same | ⟨named, -⟩)
      · exact unnamed' same
      · exact named rfl
  · rw [setvar_eq_iff s found' (by omega) (surrounded.named found assigns unnamed) found assigns unnamed
      (surrounded.expression found)]
    exact or_congr_right (and_iff_right unnamed).symm

/-- The whole condition, for `SETVAR` texts that white space surrounds. -/
theorem setvar_same_trim_iff (surrounded : trim command ≠ command) :
    setvar command s = setvar (trim command) s ↔ MarginHarmless command s.vm := by
  obtain ⟨front, behind, around⟩ := exists_surrounded command
  have quoted : setvarMalformed (D := D) command ≠ setvarMalformed (trim command) := by
    intro same
    exact surrounded (List.append_cancel_left (congrArg ExecutionResult.message same)).symm
  unfold MarginHarmless
  cases found : find? (lit "=") (trim command) with
  | none =>
    have found' : find? (lit "=") command = none := by rw [around.find?_eq, found]; rfl
    rw [setvar_malformed s fun _ same => absurd (found'.symm.trans same) nofun,
      setvar_malformed s fun _ same => absurd (found.symm.trans same) nofun]
    refine iff_of_false (fun same => quoted (Except.ok.inj (congrArg Prod.fst same))) ?_
    rintro ⟨eqPos, same, -⟩
    cases same
  | some eqPos =>
    have found' : find? (lit "=") command = some (margin command + eqPos) := by rw [around.find?_eq, found]; rfl
    by_cases assigns : 6 < eqPos
    · rw [setvar_same_iff s around found assigns]
      constructor
      · exact fun harmless => ⟨eqPos, rfl, assigns, harmless⟩
      · rintro ⟨_, same, -, harmless⟩
        cases same
        exact harmless
    · have malformed := setvar_malformed s (setvar_early found assigns)
      rw [malformed]
      refine iff_of_false (fun same => ?_) ?_
      · by_cases assigns' : 6 < margin command + eqPos
        · by_cases unnamed : setvarName command (margin command + eqPos) = []
          · rw [setvar_unnamed s found' assigns' unnamed] at same
            exact setvarMalformed_ne _ (Except.ok.inj (congrArg Prod.fst same)).symm
          · exact setvar_named_ne s found' assigns' unnamed _ same
        · have malformed' := setvar_malformed s (setvar_early found' assigns')
          rw [malformed'] at same
          exact quoted (Except.ok.inj (congrArg Prod.fst same))
      · rintro ⟨_, same, behind, -⟩
        cases same
        exact assigns behind

end Same

/-! ## A command that trims to `setvar n = e` -/

section Assignment

variable [CxxDouble D] {env : Environment D} {params : StrMap} {keyword n e : Str}

theorem not_mem_of_toUpper {c : UInt8} {s t : Str} (upper : s.map toUpper = t) (missing : toUpper c ∉ t) : c ∉ s := by
  intro mem
  exact missing (upper ▸ List.mem_map_of_mem mem)

theorem not_space_of_wordChar {c : UInt8} (word : isWordChar c = true) : isSpace c = false := by
  rw [← Bool.not_eq_true]
  intro space
  rw [not_wordChar_of_isSpace space] at word
  cases word

/-- A command whose upper-cased text starts with the keyword is a `SETVAR`. -/
theorem setvar_of_prefix {command tail : Str} (known : commandName command = lit "SETVAR" ++ tail) :
    commandName command ∉ plainCommands ∧ occurs (lit "SETVAR") (commandName command) = true := by
  have six : ∀ name ∈ plainCommands, (name.take 6 == lit "SETVAR") = false := by decide
  rw [known]
  constructor
  · intro mem
    have differs := six _ mem
    rw [show (6 : Nat) = (lit "SETVAR").length from rfl, List.take_left] at differs
    cases differs
  · rw [occurs_iff]
    exact (List.prefix_append _ _).isInfix

/-- The first equals sign is the one behind the name, and the operands are in front of it and behind. -/
theorem assignment_operands {front : Str} (length : keyword.length = 6)
    (front_eq : front = keyword ++ lit " " ++ n ++ lit " ")
    (before : ch '=' ∉ front) (word : ∀ c ∈ n, isWordChar c = true) {command : Str}
    (cut : command = front ++ ch '=' :: (lit " " ++ e)) :
    find? (lit "=") command = some front.length ∧ 6 < front.length ∧ setvarName command front.length = n ∧
      setvarExpression command front.length = trim e := by
  have blank : ∀ c ∈ lit " ", isSpace c = true := List.all_eq_true.1 (by decide)
  have long : front.length = 6 + (lit " " ++ (n ++ lit " ")).length := by
    rw [front_eq]
    simp only [List.length_append, length]
    omega
  refine ⟨?_, ?_, ?_, ?_⟩
  · rw [cut]
    exact find?_byte before _
  · rw [long]
    exact Nat.lt_add_of_pos_right (Nat.succ_pos _)
  · have regroup : front ++ ch '=' :: (lit " " ++ e) =
        keyword ++ (lit " " ++ (n ++ lit " ") ++ ch '=' :: (lit " " ++ e)) := by
      rw [front_eq]
      simp only [List.append_assoc]
    have inside : (command.drop 6).take (front.length - 6) = lit " " ++ (n ++ lit " ") := by
      rw [long, Nat.add_sub_cancel_left, cut, regroup, ← length, List.drop_left, List.take_left]
    unfold setvarName
    rw [inside, trim_blank_append _ blank, trim_append_blank _ blank]
    exact trim_eq_self fun c mem => not_space_of_wordChar (word c mem)
  · unfold setvarExpression
    rw [cut, ← List.drop_drop, List.drop_left, List.drop_succ_cons, List.drop_zero]
    exact trim_blank_append e blank

/-- The keyword is no other command, and the first equals sign is the one behind the name. -/
theorem execute_assignment (is : keyword.map toUpper = lit "SETVAR") (some : n ≠ [])
    (word : ∀ c ∈ n, isWordChar c = true) {command : Str} (trimmed : trim command = command)
    (shape : command = keyword ++ lit " " ++ n ++ lit " = " ++ e) {s : ExecState D} {v : VariableValue D}
    (value : evaluateValueExpression s.vm e = .ok v) :
    executeBuiltinCommand env command params s =
      (.ok { success := true, outputs := OrdMap.empty.insert n v }, { s with vm := s.vm.set n v .global }) := by
  have length : keyword.length = 6 := by
    have same := congrArg List.length is
    rwa [List.length_map] at same
  have known : commandName command = lit "SETVAR" ++ (lit " " ++ n ++ lit " = " ++ e).map toUpper := by
    unfold commandName
    rw [trimmed, shape, ← is]
    simp only [List.append_assoc, List.map_append]
  have before : ch '=' ∉ keyword ++ lit " " ++ n ++ lit " " := by
    have inKeyword : ch '=' ∉ keyword := not_mem_of_toUpper is (by decide)
    have inName : ch '=' ∉ n := fun mem => absurd (word _ mem) (by decide)
    simp only [List.mem_append, not_or]
    exact ⟨⟨⟨inKeyword, by decide⟩, inName⟩, by decide⟩
  have cut : command = (keyword ++ lit " " ++ n ++ lit " ") ++ ch '=' :: (lit " " ++ e) := by
    rw [shape]
    simp only [List.append_assoc]
    rfl
  have same : evaluateValueExpression s.vm (trim e) = .ok v := by
    rw [← value]
    unfold evaluateValueExpression
    rw [trim_trim]
  obtain ⟨other, setvar'⟩ := setvar_of_prefix known
  obtain ⟨found, assigns, name, expression⟩ := assignment_operands length rfl before word cut
  rw [executeBuiltinCommand_other other, if_pos setvar', setvar_named s found assigns (by rwa [name]), expression, name,
    same]

end Assignment

/-! ## Every command -/

section Commands

variable [CxxDouble D]

theorem same_trim_iff (env : Environment D) (command : Str) (params : StrMap) (s : ExecState D) :
    executeBuiltinCommand env command params s = executeBuiltinCommand env (trim command) params s ↔
      Harmless command s.vm := by
  unfold Harmless
  by_cases trimmed : trim command = command
  · exact iff_of_true (by rw [trimmed]) (.inl trimmed)
  by_cases plain : commandName command ∈ plainCommands
  · exact iff_of_true (by rw [executeBuiltinCommand_plain plain (commandName_trim command)]) (.inr (.inl plain))
  have plain' : commandName (trim command) ∉ plainCommands := by rwa [commandName_trim]
  rw [executeBuiltinCommand_other plain, executeBuiltinCommand_other plain', commandName_trim]
  by_cases is : occurs (lit "SETVAR") (commandName command) = true
  · rw [if_pos is, if_pos is, setvar_same_trim_iff s trimmed]
    simp only [trimmed, plain, is, true_and, false_or]
  · rw [if_neg is, if_neg is]
    refine iff_of_false ?_ ?_
    · intro same
      have message := congrArg ExecutionResult.message (Except.ok.inj (congrArg Prod.fst same))
      exact trimmed (List.append_cancel_left message).symm
    · rintro (solid | known | ⟨assigns, -⟩)
      · exact trimmed solid
      · exact plain known
      · exact is assigns

/-- White space around a command makes no difference exactly when it is harmless. -/
theorem trimmed_alike_iff (env : Environment D) (command : Str) (params : StrMap) (s : ExecState D) :
    TrimsAlike env command params s ↔ Harmless command s.vm := by
  rw [← same_trim_iff env command params s]
  constructor
  · exact TrimsAlike.same
  · intro same
    refine ⟨same, fun keyword n e v is some word shape value => ?_⟩
    rw [same]
    exact execute_assignment is some word (trim_trim command) shape value

end Commands

/-- Behind one blank, `setvar n = 5` assigns to a variable `r n`. -/
theorem padded_setvar_misnames :
    let ends (command : Str) := (executeBuiltinCommand (.quiet : Environment FixedPoint) command OrdMap.empty {}).2.vm
    trim (lit " setvar n = 5") = lit "setvar n = 5" ∧
      (ends (lit "setvar n = 5")).globalVars.find? (lit "n") = some (.int 5) ∧
      (ends (lit " setvar n = 5")).globalVars.find? (lit "n") = none ∧
      (ends (lit " setvar n = 5")).globalVars.find? (lit "r n") = some (.int 5) := by
  decide +kernel

end Actuator.Executor

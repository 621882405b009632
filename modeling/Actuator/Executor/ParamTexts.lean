import Actuator.Executor.AssignOrder
import Actuator.Executor.ExactValues
import Actuator.Lib.ExactDouble

/-!
# Parameters by value and by text

The text of a task parameter becomes a value twice: `setFromParams` makes a
variable of it, and `evaluateValueExpression` reads it again where a command has
its placeholder. The one tries the number formats on the whole text and keeps
anything else as it is; the other trims it, takes quotes off and looks for
variables and operators. Where the two agree is said for every text, also for
those that `strtod` reads in hexadecimal, as an infinity or as NaN.
-/

namespace Actuator.Executor

open Actuator.Lib Actuator.Core Actuator.Parser
open Actuator.Lib.ExactDouble (strtod stod finite strtod_of_stod strtod_of_stoi strtod_trim
  inNumber_strtod trim_ne_nil)
open Actuator.Lib.Decimal (InNumber)
open Actuator.Lib.Assignments (run run_append run_cons_eq_ok run_agreesOff)
open VariableManager (valueOfParam)

/-! ## Number texts -/

/-- The truth words are no numbers, and have no white space around them. -/
theorem word_reading {s : Str} (word : isTrueWord s = true ∨ isFalseWord s = true) :
    trim s = s ∧ (strtod s).2 ≠ s.length ∧ (valueOfParam s : VariableValue ExactDouble) = .bool (isTrueWord s) := by
  simp only [isTrueWord, isFalseWord, Bool.or_eq_true, decide_eq_true_eq] at word
  rcases word with ((rfl | rfl) | rfl) | ((rfl | rfl) | rfl) <;> decide +kernel

/-- A text read to its end has no operators of comparisons, no quotes and no white space around it when trimmed. -/
theorem free_of_reads {vm : VariableManager ExactDouble} {s : Str} {x : ExactDouble} (some : s ≠ [])
    (reads : strtod s = (x, s.length)) (unbound : vm.lookup (trim s) = none) : Free vm (trim s) := by
  have trimmed := strtod_trim some reads
  have chars : ∀ c ∈ trim s, InNumber c := fun c mem =>
    inNumber_strtod some (congrArg Prod.snd reads) c ((List.rdropWhile_prefix _ _).subset mem)
  have other : ∀ c ∈ [ch '=', ch '>', ch '<', ch '&', ch '|', ch '"', ch '\''], c ∉ trim s := by
    have marks : ∀ c ∈ [ch '=', ch '>', ch '<', ch '&', ch '|', ch '"', ch '\''], ¬InNumber c := by
      unfold InNumber
      decide +kernel
    exact fun c mark mem => marks c mark (chars c mem)
  have noWord : ¬(isTrueWord (trim s) = true ∨ isFalseWord (trim s) = true) :=
    fun word => (word_reading word).2.1 (congrArg Prod.snd trimmed)
  refine ⟨⟨?_, unquote?_eq_none ?_ ?_, ?_, ?_⟩, unbound, not_containsComparisonOperator ?_⟩
  · exact Bool.eq_false_iff.2 fun empty => trim_ne_nil some (congrArg Prod.snd reads) (List.isEmpty_iff.1 empty)
  · exact fun first => other (ch '"') (by decide) (List.mem_of_mem_head? first)
  · exact fun first => other (ch '\'') (by decide) (List.mem_of_mem_head? first)
  · exact Bool.eq_false_iff.2 fun yes => noWord (Or.inl yes)
  · exact Bool.eq_false_iff.2 fun no => noWord (Or.inr no)
  · intro c mark
    exact other c (List.mem_append_left [ch '"', ch '\''] mark)

theorem literal_of_reads {t : Str} {x : ExactDouble} (some : t ≠ []) (reads : strtod t = (x, t.length)) :
    tryParseNumberLiteral t = Option.some x := by
  have run : (CxxDouble.strtod t : ExactDouble × Nat) = strtod t := rfl
  have filled : ¬(t.isEmpty = true ∨ t.length = 0) := by
    rintro (empty | zero)
    · exact some (List.isEmpty_iff.1 empty)
    · exact some (List.length_eq_zero_iff.1 zero)
  unfold tryParseNumberLiteral
  rw [run, reads]
  simp only [if_neg filled, List.drop_length]
  rfl

/-- A text taken by `stoi` as a whole has no point and no exponent in it. -/
theorem noPoint_of_stoi {s : Str} {n : Int32} (took : stoi s = some (n, s.length)) : ¬HasPoint s := by
  obtain ⟨-, sign, digits, isSign, solid, -, -, all, -⟩ := stoi_shape took
  have other : ∀ c : UInt8, isSpace c = false → isDigit c = false → c ≠ ch '+' → c ≠ ch '-' → c ∉ s := by
    intro c space digit plus minus mem
    rw [← List.takeWhile_append_dropWhile (p := isSpace) (l := s), solid] at mem
    rcases List.mem_append.1 mem with blank | rest
    · rw [List.mem_takeWhile_imp blank] at space
      cases space
    rcases List.mem_append.1 rest with signed | inside
    · rcases isSign.cases with rfl | rfl | rfl
      · cases signed
      · exact plus (List.mem_singleton.1 signed)
      · exact minus (List.mem_singleton.1 signed)
    · rw [all c inside] at digit
      cases digit
  rintro (point | lower | upper)
  · exact other _ rfl rfl (by decide) (by decide) point
  · exact other _ rfl rfl (by decide) (by decide) lower
  · exact other _ rfl rfl (by decide) (by decide) upper

/-! ## The value of a parameter -/

/-- What `setFromParams` makes of a text: a number if all of it is one, a truth word, or else the text as it is. -/
inductive ParamValue (s : Str) : VariableValue ExactDouble → Prop
  | int {n : Int32} (whole : stoi s = some (n, s.length)) : ParamValue s (.int n)
  | double {x : ExactDouble} (noInt : ∀ n, stoi s ≠ some (n, s.length)) (whole : stod s = some (x, s.length)) :
    ParamValue s (.double x)
  | trueWord (word : isTrueWord s = true) : ParamValue s (.bool true)
  | falseWord (word : isFalseWord s = true) : ParamValue s (.bool false)
  | text (noInt : ∀ n, stoi s ≠ some (n, s.length)) (noDouble : ∀ x, stod s ≠ some (x, s.length))
    (notTrue : isTrueWord s = false) (notFalse : isFalseWord s = false) : ParamValue s (.string s)

theorem valueOfParam_noInt {s : Str} (noInt : ∀ n, stoi s ≠ some (n, s.length)) :
    (valueOfParam s : VariableValue ExactDouble) = valueOfParam.orDouble s := by
  unfold valueOfParam
  cases took : stoi s with
  | none => rfl
  | some pair =>
    obtain ⟨n, used⟩ := pair
    have part : used ≠ s.length := fun whole => noInt n (by rw [took, whole])
    simp only [if_neg part]

theorem orDouble_noDouble {s : Str} (noDouble : ∀ x, stod s ≠ some (x, s.length)) :
    (valueOfParam.orDouble s : VariableValue ExactDouble) = valueOfParam.orWord s := by
  unfold valueOfParam.orDouble
  cases read : (CxxDouble.stod s : Option (ExactDouble × Nat)) with
  | none => rfl
  | some pair =>
    obtain ⟨x, used⟩ := pair
    have part : used ≠ s.length := fun whole => noDouble x (read.trans (by rw [whole]))
    simp only [if_neg part]

theorem ParamValue.eq {s : Str} {v : VariableValue ExactDouble} (value : ParamValue s v) : v = valueOfParam s := by
  cases value with
  | int whole =>
    unfold valueOfParam
    simp only [whole, if_true]
  | double noInt whole =>
    have read : (CxxDouble.stod s : Option (ExactDouble × Nat)) = _ := whole
    rw [valueOfParam_noInt noInt]
    unfold valueOfParam.orDouble
    simp only [read, if_true]
  | trueWord word => rw [(word_reading (Or.inl word)).2.2, word]
  | falseWord word =>
    have notBoth := (truthWord_cases (Or.inr word)).2.2
    rw [(word_reading (Or.inr word)).2.2, Bool.eq_false_iff.2 fun yes => notBoth ⟨yes, word⟩]
  | text noInt noDouble notTrue notFalse =>
    rw [valueOfParam_noInt noInt, orDouble_noDouble noDouble]
    unfold valueOfParam.orWord
    simp only [notTrue, notFalse, Bool.false_eq_true, if_false]

theorem exists_paramValue (s : Str) : ∃ v, ParamValue s v := by
  by_cases int : ∃ n, stoi s = some (n, s.length)
  · obtain ⟨n, whole⟩ := int
    exact ⟨_, .int whole⟩
  have noInt : ∀ n, stoi s ≠ some (n, s.length) := fun n same => int ⟨n, same⟩
  by_cases double : ∃ x, stod s = some (x, s.length)
  · obtain ⟨x, whole⟩ := double
    exact ⟨_, .double noInt whole⟩
  have noDouble : ∀ x, stod s ≠ some (x, s.length) := fun x same => double ⟨x, same⟩
  cases notTrue : isTrueWord s with
  | true => exact ⟨_, .trueWord notTrue⟩
  | false =>
    cases notFalse : isFalseWord s with
    | true => exact ⟨_, .falseWord notFalse⟩
    | false => exact ⟨_, .text noInt noDouble notTrue notFalse⟩

theorem paramValue_iff (s : Str) (v : VariableValue ExactDouble) : ParamValue s v ↔ valueOfParam s = v := by
  refine ⟨fun value => value.eq.symm, ?_⟩
  rintro rfl
  obtain ⟨v, value⟩ := exists_paramValue s
  exact value.eq ▸ value

/-! ## Where the two agree -/

/-- Where a placeholder of the parameter evaluates to the parameter's value: the text is empty or a truth word; or it
names no variable when trimmed, and is an `int`, or a `double` with a point or a letter `e` in it, or a text without
white space around it, quotes or operators that begins with no number up to its end or a NUL; or the trimmed text names
a variable that happens to hold the value. -/
inductive PathsAgree (vm : VariableManager ExactDouble) (s : Str) : Prop
  | empty (nothing : s = [])
  | word (word : isTrueWord s = true ∨ isFalseWord s = true)
  | int {n : Int32} (unbound : vm.lookup (trim s) = none) (whole : stoi s = some (n, s.length))
  | double {x : ExactDouble} (unbound : vm.lookup (trim s) = none) (whole : stod s = some (x, s.length))
    (point : HasPoint (trim s))
  | text (trimmed : trim s = s) (free : Free vm s) (other : (tryParseNumberLiteral s : Option ExactDouble) = none)
    (still : containsArithmeticOperator s = false)
  | held {v : VariableValue ExactDouble} (bare : Bare (trim s)) (holds : vm.lookup (trim s) = some v) (same : ParamValue s v)

/-- What is known of a text that is a number and names no variable. -/
theorem number_reading {vm : VariableManager ExactDouble} {s : Str} {x : ExactDouble} (some : s ≠ [])
    (reads : strtod s = (x, s.length)) (unbound : vm.lookup (trim s) = none) :
    Free vm (trim s) ∧ tryParseNumberLiteral (trim s) = Option.some x :=
  ⟨free_of_reads some reads unbound,
    literal_of_reads (trim_ne_nil some (congrArg Prod.snd reads)) (strtod_trim some reads)⟩

theorem filled_of_stoi {s : Str} {n : Int32} (took : stoi s = some (n, s.length)) : s ≠ [] := by
  rintro rfl
  cases took

theorem reads_of_stod {s : Str} {x : ExactDouble} (took : stod s = some (x, s.length)) :
    s ≠ [] ∧ strtod s = (x, s.length) := by
  obtain ⟨reads, used⟩ := strtod_of_stod took
  exact ⟨fun none => used (List.length_eq_zero_iff.2 none), reads⟩

theorem hasPoint_of_trim {s : Str} (point : HasPoint (trim s)) : HasPoint s := by
  have inside : ∀ c ∈ trim s, c ∈ s :=
    fun c mem => (List.dropWhile_suffix _).subset ((List.rdropWhile_prefix _ _).subset mem)
  exact point.imp (inside _) fun either => either.imp (inside _) (inside _)

/-- The number read again, from a text that `stoi` takes as a whole. -/
theorem numberValue_of_stoi {s : Str} {n : Int32} (took : stoi s = some (n, s.length)) :
    numberValue (trim s) (finite n.toInt) = .int n := by
  have plain : ¬HasPoint (trim s) := fun point => noPoint_of_stoi took (hasPoint_of_trim point)
  have narrowed : (CxxDouble.toInt (finite n.toInt) : Int32) = Int32.ofInt n.toInt := toInt_intCast n.toInt
  rw [numberValue_plain plain, narrowed, Int32.ofInt_toInt]

theorem Bare.noWord {s : Str} (bare : Bare (trim s)) : ¬(isTrueWord s = true ∨ isFalseWord s = true) := by
  intro word
  have same := (word_reading word).1
  rcases word with yes | no
  · rw [← same, bare.notTrue] at yes
    cases yes
  · rw [← same, bare.notFalse] at no
    cases no

/-- Taking quotes off shortens a text. -/
theorem length_unquote? {text inside : Str} (quotes : unquote? text = some inside) : inside.length < text.length := by
  unfold unquote? at quotes
  split at quotes
  · rename_i long
    cases quotes
    simp only [List.length_take, List.length_drop]
    omega
  · cases quotes

theorem length_trim_le (s : Str) : (trim s).length ≤ s.length :=
  (List.IsPrefix.length_le (List.rdropWhile_prefix _ _)).trans (List.length_dropWhile_le _ _)

theorem PathsAgree.denotes {vm : VariableManager ExactDouble} {s : Str} (agree : PathsAgree vm s) :
    ∃ v, ParamValue s v ∧ Denotes vm s v := by
  cases agree with
  | empty nothing =>
    subst nothing
    exact ⟨_, (paramValue_iff [] (.string [])).2 rfl, .blank rfl⟩
  | word word =>
    have trimmed := (word_reading word).1
    rcases word with yes | no
    · exact ⟨_, .trueWord yes, .trueWord (by rw [trimmed, yes])⟩
    · exact ⟨_, .falseWord no, .falseWord (by rw [trimmed, no])⟩
  | @int n unbound whole =>
    obtain ⟨free, reads⟩ := number_reading (filled_of_stoi whole) (strtod_of_stoi whole) unbound
    have denotes := Denotes.number free reads
    rw [numberValue_of_stoi whole] at denotes
    exact ⟨_, .int whole, denotes⟩
  | @double x unbound whole point =>
    obtain ⟨some, read⟩ := reads_of_stod whole
    obtain ⟨free, reads⟩ := number_reading some read unbound
    have denotes := Denotes.number free reads
    rw [numberValue_hasPoint point] at denotes
    exact ⟨_, .double (fun n took => noPoint_of_stoi took (hasPoint_of_trim point)) whole, denotes⟩
  | text trimmed free other still =>
    have noNumber : ∀ x, strtod s ≠ (x, s.length) := by
      intro x reads
      have filled : s ≠ [] := fun none => by
        have some := free.filled
        rw [none] at some
        cases some
      rw [literal_of_reads filled reads] at other
      cases other
    refine ⟨.string (trim s), ?_, .word (trimmed.symm ▸ free) (trimmed.symm ▸ other) (trimmed.symm ▸ still)⟩
    rw [trimmed]
    exact .text (fun n took => noNumber _ (strtod_of_stoi took))
      (fun x took => noNumber _ (reads_of_stod took).2) free.notTrue free.notFalse
  | held bare holds same => exact ⟨_, same, .name bare holds⟩

theorem PathsAgree.of_denotes {vm : VariableManager ExactDouble} {s : Str} {v : VariableValue ExactDouble} (value : ParamValue s v)
    (denotes : Denotes vm s v) : PathsAgree vm s := by
  have isNumber : ∀ {x : ExactDouble}, s ≠ [] → strtod s = (x, s.length) → Free vm (trim s) →
      (tryParseNumberLiteral (trim s) : Option ExactDouble) ≠ none := by
    intro x some reads free none
    cases none.symm.trans (number_reading some reads free.unbound).2
  cases denotes with
  | blank empty =>
    cases value
    exact .empty rfl
  | quoted quotes =>
    have shorter := length_unquote? quotes
    have most := length_trim_le s
    cases value
    omega
  | trueWord word =>
    cases value with
    | trueWord yes => exact .word (Or.inl yes)
  | falseWord word =>
    cases value with
    | falseWord no => exact .word (Or.inr no)
  | name bare holds => exact .held bare holds value
  | condition bare unbound compares =>
    generalize Constraint.evaluate vm (trim s) = b at value
    cases value with
    | trueWord yes => exact absurd (Or.inl yes) bare.noWord
    | falseWord no => exact absurd (Or.inr no) bare.noWord
  | @number x free reads =>
    by_cases point : HasPoint (trim s)
    · rw [numberValue_hasPoint point] at value
      cases value with
      | double _ whole => exact .double free.unbound whole point
    · rw [numberValue_plain point] at value
      cases value with
      | int whole => exact .int free.unbound whole
  | @arithmetic x free other computes parsed =>
    unfold roundedValue at value
    split at value
    · cases value with
      | int whole => exact absurd other (isNumber (filled_of_stoi whole) (strtod_of_stoi whole) free)
    · cases value with
      | double _ whole => exact absurd other (isNumber (reads_of_stod whole).1 (reads_of_stod whole).2 free)
  | word free other still =>
    generalize trimmed : trim s = t at value free other still
    cases value
    exact .text trimmed free other still

/-- The text evaluates to the value of the parameter exactly where the two agree. -/
theorem evaluateValueExpression_param_iff (vm : VariableManager ExactDouble) (s : Str) :
    evaluateValueExpression vm s = .ok (valueOfParam s) ↔ PathsAgree vm s := by
  rw [evaluateValueExpression_iff]
  constructor
  · exact .of_denotes ((paramValue_iff s _).2 rfl)
  · intro agree
    obtain ⟨v, value, denotes⟩ := agree.denotes
    rwa [value.eq] at denotes

/-- The letters in hexadecimal digits count as those of an exponent. -/
example : evaluateValueExpression ({} : VariableManager ExactDouble) (lit "0x1e") = .ok (valueOfParam (lit "0x1e")) ∧
    evaluateValueExpression ({} : VariableManager ExactDouble) (lit "0x10") ≠ .ok (valueOfParam (lit "0x10")) ∧
    evaluateValueExpression ({} : VariableManager ExactDouble) (lit "inf") ≠ .ok (valueOfParam (lit "inf")) := by
  decide +kernel

/-! ## The command -/

/-- What a command parameter becomes that is the placeholder of a task parameter. -/
theorem instantiated_bound {definition node : BehaviorNode} {params : StrMap} {p k s : Str} (closed : ch '}' ∉ p)
    (bound : params.find? p = some s) (written : node.data.params.find? k = some (placeholder p)) :
    (instantiated definition params node).data.params.find? k = some s := by
  rw [find?_instantiated_params, written, Option.map_some, replaceVariables_placeholder closed,
    find?_buildTemplateParams, bound]
  rfl

/-- A name holds what its assignment gave it, whatever is assigned to other names afterwards. -/
theorem find?_of_runAssignments {before after : List (Str × Str)} {k s : Str} {vm reached final : VariableManager ExactDouble}
    {value : VariableValue ExactDouble} (ran : runAssignments before vm = .ok reached)
    (evaluated : evaluateValueExpression reached s = .ok value)
    (later : runAssignments (before ++ (k, s) :: after) vm = .ok final) (other : k ∉ after.map Prod.fst) :
    final.localVars.find? k = some value := by
  unfold runAssignments at ran later
  rw [run_append, ran] at later
  obtain ⟨found, read, rest⟩ := run_cons_eq_ok later
  obtain rfl := Except.ok.inj (read.symm.trans evaluated)
  have held := (run_agreesOff rest).get k other
  exact held.trans (OrdMap.find?_insert_self _ _ _)

/-- A placeholder of a task parameter in an `ASSIGN`: when its turn comes, it gets the value the parameter was stored
with, and keeps it if the command returns, exactly where the two readings of the text agree. -/
theorem assign_placeholder_iff (env : Environment ExactDouble) (definition node : BehaviorNode) (params : StrMap) (p k s : Str)
    (closed : ch '}' ∉ p) (bound : params.find? p = some s) (written : node.data.params.find? k = some (placeholder p))
    (is : commandName (instantiated definition params node).data.command = lit "ASSIGN") (start : VariableManager ExactDouble) :
    ∃ before after, (instantiated definition params node).data.params.entries = before ++ (k, s) :: after ∧
      ∀ (state : ExecState ExactDouble) (reached : VariableManager ExactDouble), runAssignments before state.vm = .ok reached →
        (((∃ vm, runAssignments (before ++ [(k, s)]) state.vm = .ok vm ∧
            vm.localVars.find? k = (start.setFromParams params .loc).localVars.find? p) ∧
          ∀ result state', executeBuiltinCommand env (instantiated definition params node).data.command
              (instantiated definition params node).data.params state = (.ok result, state') →
            state'.vm.localVars.find? k = (start.setFromParams params .loc).localVars.find? p) ↔
          PathsAgree reached s) := by
  have filled := @instantiated_bound definition node params p k s closed bound written
  obtain ⟨before, after, split⟩ := split_iff_find?.2 filled
  refine ⟨before, after, split, fun state reached ran => ?_⟩
  rw [VariableManager.find?_setFromParams start bound, ← evaluateValueExpression_param_iff]
  have distinct : k ∉ after.map Prod.fst := by
    have keys := (instantiated definition params node).data.params.nodup_keys
    rw [split, List.map_append, List.map_cons] at keys
    exact (List.nodup_cons.1 (List.nodup_append.1 keys).2.1).1
  constructor
  · rintro ⟨⟨vm, ran', held⟩, -⟩
    unfold runAssignments at ran ran'
    rw [run_append, ran] at ran'
    obtain ⟨value, read, rest⟩ := run_cons_eq_ok ran'
    obtain rfl := Except.ok.inj rest
    rw [read]
    exact congrArg Except.ok (Option.some.inj ((OrdMap.find?_insert_self _ _ _).symm.trans held))
  · intro evaluated
    constructor
    · refine ⟨reached.set k (valueOfParam s) .loc, ?_, OrdMap.find?_insert_self _ _ _⟩
      unfold runAssignments at ran ⊢
      rw [run_append, ran]
      show (evaluateValueExpression reached s >>= fun v => run _ _ [] _) = _
      rw [evaluated]
      rfl
    · intro result state' executed
      have whole := (executeBuiltinCommand_assign_iff env is _ state state'.vm).1 ⟨result, state', executed, rfl⟩
      rw [split] at whole
      exact find?_of_runAssignments ran evaluated whole distinct

/-! ## A date and a name -/

/-- An `ASSIGN` of the site that the task names. -/
def siteNode : BehaviorNode :=
  .mk { type := .action, command := lit "ASSIGN"
        params := OrdMap.empty.insert (lit "target") (placeholder (lit "site")) } []

def siteParams (s : Str) : StrMap := OrdMap.empty.insert (lit "site") s

theorem assign_placeholder_sample :
    ∃ vm : VariableManager ExactDouble, runAssignments [(lit "target", lit "north")] {} = .ok vm ∧
      vm.localVars.find? (lit "target") =
        ((({} : VariableManager ExactDouble).setFromParams (siteParams (lit "north")) .loc).localVars.find? (lit "site")) := by
  obtain ⟨before, after, split, each⟩ := assign_placeholder_iff .quiet siteNode siteNode (siteParams (lit "north"))
    (lit "site") (lit "target") (lit "north") (by decide) rfl rfl (by decide) {}
  have alone : before = [] := by
    have length := congrArg List.length split
    rw [show (instantiated siteNode (siteParams (lit "north")) siteNode).data.params.entries.length = 1 by decide,
      List.length_append, List.length_cons] at length
    exact List.length_eq_zero_iff.1 (by omega)
  subst alone
  have agree : PathsAgree ({} : VariableManager ExactDouble) (lit "north") :=
    .text (by decide) ⟨⟨by decide, by decide, by decide, by decide⟩, by decide, by decide⟩ (by decide +kernel)
      (by decide)
  exact ((each {} {} rfl).2 agree).1

/-- A date is computed, and a name with a hyphen in it raises an exception; as parameters they are texts. -/
theorem assign_placeholder_differs :
    (({} : VariableManager ExactDouble).setFromParams (siteParams (lit "2024-05-01")) .loc).localVars.find? (lit "site") =
        some (.string (lit "2024-05-01")) ∧
      (executeNode (.quiet : Environment ExactDouble) (instantiated siteNode (siteParams (lit "2024-05-01")) siteNode)
        {}).2.vm.localVars.find? (lit "target") = some (.int 2018) ∧
      (executeNode (.quiet : Environment ExactDouble) (instantiated siteNode (siteParams (lit "sat-a")) siteNode)
        {}).1.toOption.isNone := by
  decide +kernel

end Actuator.Executor

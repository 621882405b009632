import Actuator.Lib.Double
import Actuator.Lib.OrdMap

/-!
# JSON documents

The values of the JSON library, how typed members are read from them, and what
is assumed of its text form: `parse` gives back what `dump` printed, for
documents whose strings are valid UTF-8, and reads no others.
-/

namespace Actuator.Lib

/-- A JSON value. The library's signed and unsigned integers compare equal when their numbers do, so they are
one constructor; the members of an object are sorted by key. -/
inductive Json (D : Type) where
  | null
  | bool (b : Bool)
  | int (n : Int)
  | float (x : D)
  | string (s : Str)
  | array (items : List (Json D))
  | object (members : List (Str × Json D))

namespace Json

variable {D : Type}

/-! ## Building -/

def ofMap (m : OrdMap Str (Json D)) : Json D := object m.entries

/-- An object built by assigning its members one after the other. -/
def ofMembers (members : List (Str × Json D)) : Json D := ofMap (OrdMap.ofList members)

def ofStrings (strings : List Str) : Json D := array (strings.map string)

def ofStrMap (m : OrdMap Str Str) : Json D := ofMap (m.mapValues string)

/-! ## Reading -/

def typeName : Json D → Str
  | null => lit "null"
  | bool _ => lit "boolean"
  | int _ => lit "number"
  | float _ => lit "number"
  | string _ => lit "string"
  | array _ => lit "array"
  | object _ => lit "object"

def find? (key : Str) : Json D → Option (Json D)
  | object members => OrdMap.lookupEntry key members
  | _ => none

def contains (j : Json D) (key : Str) : Bool := (j.find? key).isSome

def isObject : Json D → Bool
  | object _ => true
  | _ => false

/-- The elements a loop over the value visits. A value that is no container is its own only element. -/
def elements : Json D → List (Json D)
  | null => []
  | array items => items
  | object members => members.map (·.2)
  | j => [j]

/-- The members a loop over keys and values visits, which throws on what has elements but no keys. -/
def keyed (j : Json D) : Except Str (List (Str × Json D)) :=
  match j with
  | object members => .ok members
  | _ =>
    if j.elements.isEmpty then .ok []
    else .error (lit "[json.exception.invalid_iterator.207] cannot use key() for non-object iterators")

/-- The exception of a conversion to the wrong type. -/
def typeError {α : Type} (expected : Str) (j : Json D) : Except Str α :=
  .error (lit "[json.exception.type_error.302] type must be " ++ expected ++ lit ", but is " ++ j.typeName)

/-- `get<std::string>`. -/
def getString : Json D → Except Str Str
  | string s => .ok s
  | j => typeError (lit "string") j

/-- `get<bool>`. -/
def getBool : Json D → Except Str Bool
  | bool b => .ok b
  | j => typeError (lit "boolean") j

/-- `get<uint64_t>`. -/
def getUInt64 [CxxDouble D] : Json D → Except Str UInt64
  | int n => .ok (UInt64.ofNat (n % 18446744073709551616).toNat)
  | float x => .ok (CxxDouble.toUInt64 x)
  | j => typeError (lit "number") j

/-- `get<int>`, which converts truth values too. -/
def getInt [CxxDouble D] : Json D → Except Str Int32
  | int n => .ok (Int32.ofInt n)
  | float x => .ok (CxxDouble.toInt x)
  | bool b => .ok (if b then 1 else 0)
  | j => typeError (lit "number") j

/-- `value(key, default)`. -/
def value {α : Type} (get : Json D → Except Str α) (key : Str) (default : α) : Json D → Except Str α
  | object members =>
    match OrdMap.lookupEntry key members with
    | some member => get member
    | none => .ok default
  | j => .error (lit "[json.exception.type_error.306] cannot use value() with " ++ j.typeName)

theorem value_of_find? {α : Type} {get : Json D → Except Str α} {key : Str} {default : α} {m : OrdMap Str (Json D)}
    {member : Json D} (found : m.find? key = some member) : (ofMap m).value get key default = get member := by
  show (match m.find? key with
    | some member => get member
    | none => .ok default) = _
  rw [found]

theorem find?_ofMap (m : OrdMap Str (Json D)) (key : Str) : (ofMap m).find? key = m.find? key := rfl

theorem getUInt64_nat [CxxDouble D] (n : UInt64) : (int n.toNat : Json D).getUInt64 = .ok n := by
  have high : n.toNat < 18446744073709551616 := n.toNat_lt
  show Except.ok (UInt64.ofNat ((n.toNat : Int) % 18446744073709551616).toNat) = _
  rw [Int.emod_eq_of_lt (by omega) (by omega), Int.toNat_natCast, UInt64.ofNat_toNat]

theorem getInt_int [CxxDouble D] (n : Int32) : (int n.toInt : Json D).getInt = .ok n :=
  congrArg Except.ok (Int32.ofInt_toInt n)

/-! ## Documents with a text form -/

/-- The integers the library stores without loss. -/
def InNumberRange (n : Int) : Prop := -9223372036854775808 ≤ n ∧ n < 18446744073709551616

instance decidableInNumberRange (n : Int) : Decidable (InNumberRange n) := by unfold InNumberRange; infer_instance

mutual

/-- All strings are valid UTF-8, the integers are in range, and the keys of each object ascend. -/
def Printable : Json D → Prop
  | int n => InNumberRange n
  | string s => ValidUtf8 s
  | array items => PrintableItems items
  | object members => members.Pairwise (fun a b => a.1 < b.1) ∧ PrintableMembers members
  | _ => True

def PrintableItems : List (Json D) → Prop
  | [] => True
  | item :: items => Printable item ∧ PrintableItems items

def PrintableMembers : List (Str × Json D) → Prop
  | [] => True
  | (key, item) :: members => ValidUtf8 key ∧ Printable item ∧ PrintableMembers members

end

mutual

instance decidablePrintable : (j : Json D) → Decidable j.Printable
  | null => isTrue trivial
  | bool _ => isTrue trivial
  | float _ => isTrue trivial
  | int n => decidableInNumberRange n
  | string s => decidableValidUtf8 s
  | array items => decidablePrintableItems items
  | object members => @instDecidableAnd _ _ inferInstance (decidablePrintableMembers members)

instance decidablePrintableItems : (items : List (Json D)) → Decidable (PrintableItems items)
  | [] => isTrue trivial
  | item :: items => @instDecidableAnd _ _ (decidablePrintable item) (decidablePrintableItems items)

instance decidablePrintableMembers : (members : List (Str × Json D)) → Decidable (PrintableMembers members)
  | [] => isTrue trivial
  | (key, item) :: members =>
    @instDecidableAnd _ _ (decidableValidUtf8 key)
      (@instDecidableAnd _ _ (decidablePrintable item) (decidablePrintableMembers members))

end

theorem printableItems_iff (items : List (Json D)) : PrintableItems items ↔ ∀ item ∈ items, Printable item := by
  induction items with
  | nil => simp [PrintableItems]
  | cons item items ih => simp [PrintableItems, ih]

theorem printableMembers_iff (members : List (Str × Json D)) :
    PrintableMembers members ↔ ∀ member ∈ members, ValidUtf8 member.1 ∧ Printable member.2 := by
  induction members with
  | nil => simp [PrintableMembers]
  | cons member members ih =>
    obtain ⟨key, item⟩ := member
    simp [PrintableMembers, ih, and_assoc]

@[simp] theorem printable_bool (b : Bool) : (bool b : Json D).Printable := trivial

@[simp] theorem printable_float (x : D) : (float x).Printable := trivial

@[simp] theorem printable_int (n : Int) : (int n : Json D).Printable ↔ InNumberRange n := Iff.rfl

@[simp] theorem printable_string (s : Str) : (string s : Json D).Printable ↔ ValidUtf8 s := Iff.rfl

@[simp] theorem inNumberRange_uint64 (n : UInt64) : InNumberRange n.toNat := by
  have high : n.toNat < 18446744073709551616 := n.toNat_lt
  constructor
  · omega
  · omega

@[simp] theorem inNumberRange_int32 (n : Int32) : InNumberRange n.toInt := by
  have low := n.le_toInt
  have high := n.toInt_lt
  constructor
  · omega
  · omega

theorem printable_ofMap {m : OrdMap Str (Json D)}
    (all : ∀ key item, m.find? key = some item → ValidUtf8 key ∧ Printable item) : Printable (ofMap m) := by
  refine ⟨m.sorted, (printableMembers_iff _).2 ?_⟩
  intro member mem
  exact all member.1 member.2 (OrdMap.mem_entries.1 mem)

theorem printable_ofMembers {members : List (Str × Json D)}
    (all : ∀ member ∈ members, ValidUtf8 member.1 ∧ Printable member.2) : Printable (ofMembers members) :=
  printable_ofMap fun _ _ found => all _ (OrdMap.mem_of_find?_ofList found)

theorem printable_array {items : List (Json D)} (all : ∀ item ∈ items, Printable item) : Printable (array items) :=
  (printableItems_iff items).2 all

theorem printable_ofStrings {strings : List Str} (all : ∀ s ∈ strings, ValidUtf8 s) :
    Printable (ofStrings strings : Json D) := by
  apply printable_array
  intro item mem
  obtain ⟨s, inside, rfl⟩ := List.mem_map.1 mem
  exact all s inside

/-- The keys and texts of the map are valid UTF-8. -/
def Utf8Map (m : OrdMap Str Str) : Prop := ∀ key text, m.find? key = some text → ValidUtf8 key ∧ ValidUtf8 text

theorem Utf8Map.insert {m : OrdMap Str Str} (all : Utf8Map m) {key text : Str} (validKey : ValidUtf8 key)
    (validText : ValidUtf8 text) : Utf8Map (m.insert key text) := by
  intro other found held
  rw [OrdMap.find?_insert] at held
  split at held
  · rename_i same
    cases held
    exact ⟨same ▸ validKey, validText⟩
  · exact all other found held

theorem printable_ofStrMap {m : OrdMap Str Str} (all : Utf8Map m) : Printable (ofStrMap m : Json D) := by
  apply printable_ofMap
  intro key item found
  rw [OrdMap.find?_mapValues] at found
  obtain ⟨text, held, rfl⟩ := Option.map_eq_some_iff.1 found
  exact all key text held

/-! ## Reading printable documents -/

theorem Printable.find? {j member : Json D} {key : Str} (printable : j.Printable) (found : j.find? key = some member) :
    ValidUtf8 key ∧ member.Printable := by
  cases j with
  | object members =>
    obtain ⟨sorted, all⟩ := printable
    exact (printableMembers_iff members).1 all _ ((OrdMap.lookup_eq_some_iff_mem sorted).1 found)
  | _ => cases found

/-- A text under a key is valid when the document and the default are. -/
theorem Printable.valueString {j : Json D} {key text default : Str} (printable : j.Printable)
    (fallback : ValidUtf8 default) (read : j.value getString key default = .ok text) : ValidUtf8 text := by
  cases j with
  | object members =>
    simp only [value] at read
    cases found : OrdMap.lookupEntry key members with
    | none =>
      rw [found] at read
      cases read
      exact fallback
    | some member =>
      rw [found] at read
      have inside := (Printable.find? (j := object members) printable found).2
      cases member with
      | string s =>
        cases read
        exact inside
      | _ => cases read
  | _ => cases read

mutual

/-- What a document reads as once it was printed: floating-point numbers that are not finite print as `null`. -/
def reread (finite : D → Bool) : Json D → Json D
  | float x => if finite x then float x else null
  | array items => array (rereadItems finite items)
  | object members => object (rereadMembers finite members)
  | j => j

def rereadItems (finite : D → Bool) : List (Json D) → List (Json D)
  | [] => []
  | item :: items => reread finite item :: rereadItems finite items

def rereadMembers (finite : D → Bool) : List (Str × Json D) → List (Str × Json D)
  | [] => []
  | (key, item) :: members => (key, reread finite item) :: rereadMembers finite members

end

theorem rereadItems_eq_map (finite : D → Bool) (items : List (Json D)) :
    rereadItems finite items = items.map (reread finite) := by
  induction items with
  | nil => rfl
  | cons item items ih => rw [rereadItems, ih, List.map_cons]

theorem rereadMembers_eq_map (finite : D → Bool) (members : List (Str × Json D)) :
    rereadMembers finite members = members.map fun member => (member.1, reread finite member.2) := by
  induction members with
  | nil => rfl
  | cons member members ih =>
    obtain ⟨key, item⟩ := member
    rw [rereadMembers, ih, List.map_cons]

/-- Objects read back as objects with the same keys. -/
theorem reread_ofMap (finite : D → Bool) (m : OrdMap Str (Json D)) :
    reread finite (ofMap m) = ofMap (m.mapValues (reread finite)) :=
  congrArg object (rereadMembers_eq_map finite m.entries)

theorem reread_ofMembers_find? (finite : D → Bool) {members : List (Str × Json D)}
    (distinct : (members.map Prod.fst).Nodup) {key : Str} {member : Json D} (mem : (key, member) ∈ members) :
    (reread finite (ofMembers members)).find? key = some (reread finite member) := by
  unfold ofMembers
  rw [reread_ofMap, find?_ofMap, OrdMap.find?_mapValues, OrdMap.find?_ofList_of_mem distinct mem]
  rfl

theorem reread_ofMembers_value {α : Type} (finite : D → Bool) {members : List (Str × Json D)}
    (distinct : (members.map Prod.fst).Nodup) {key : Str} {member : Json D} (mem : (key, member) ∈ members)
    (get : Json D → Except Str α) (default : α) :
    (reread finite (ofMembers members)).value get key default = get (reread finite member) := by
  have found := reread_ofMembers_find? finite distinct mem
  unfold ofMembers at found ⊢
  rw [reread_ofMap] at found ⊢
  exact value_of_find? found

theorem reread_ofMembers_absent {α : Type} (finite : D → Bool) {members : List (Str × Json D)} {key : Str}
    (absent : key ∉ members.map Prod.fst) (get : Json D → Except Str α) (default : α) :
    (reread finite (ofMembers members)).value get key default = .ok default := by
  have missing : ((OrdMap.ofList members).mapValues (reread finite)).find? key = none := by
    rw [OrdMap.find?_mapValues]
    show (OrdMap.find? (OrdMap.insertAll OrdMap.empty members) key).map _ = _
    rw [OrdMap.find?_insertAll_of_absent _ absent]
    rfl
  unfold ofMembers
  rw [reread_ofMap]
  show (match ((OrdMap.ofList members).mapValues (reread finite)).find? key with
    | some member => get member
    | none => .ok default) = _
  rw [missing]

section Members

variable (finite : D → Bool) {members : List (Str × Json D)} (distinct : (members.map Prod.fst).Nodup) (key : Str)
include distinct

theorem reread_getString (s : Str) (mem : (key, string s) ∈ members) (default : Str) :
    (reread finite (ofMembers members)).value getString key default = .ok s :=
  reread_ofMembers_value finite distinct mem getString default

theorem reread_getBool (b : Bool) (mem : (key, bool b) ∈ members) (default : Bool) :
    (reread finite (ofMembers members)).value getBool key default = .ok b :=
  reread_ofMembers_value finite distinct mem getBool default

theorem reread_getUInt64 [CxxDouble D] (n : UInt64) (mem : (key, int n.toNat) ∈ members) (default : UInt64) :
    (reread finite (ofMembers members)).value getUInt64 key default = .ok n :=
  (reread_ofMembers_value finite distinct mem getUInt64 default).trans (getUInt64_nat n)

theorem reread_getInt [CxxDouble D] (n : Int32) (mem : (key, int n.toInt) ∈ members) (default : Int32) :
    (reread finite (ofMembers members)).value getInt key default = .ok n :=
  (reread_ofMembers_value finite distinct mem getInt default).trans (getInt_int n)

end Members

mutual

/-- Without numbers that are not finite a document reads as it is. -/
theorem reread_finite {finite : D → Bool} (j : Json D) (all : ∀ x, finite x = true) : reread finite j = j := by
  match j with
  | null | bool _ | int _ | string _ => rfl
  | float x => exact if_pos (all x)
  | array items => exact congrArg array (rereadItems_finite items all)
  | object members => exact congrArg object (rereadMembers_finite members all)

theorem rereadItems_finite {finite : D → Bool} (items : List (Json D)) (all : ∀ x, finite x = true) :
    rereadItems finite items = items := by
  match items with
  | [] => rfl
  | item :: items => exact congrArg₂ List.cons (reread_finite item all) (rereadItems_finite items all)

theorem rereadMembers_finite {finite : D → Bool} (members : List (Str × Json D)) (all : ∀ x, finite x = true) :
    rereadMembers finite members = members := by
  match members with
  | [] => rfl
  | (key, item) :: members =>
    exact congrArg₂ List.cons (congrArg (key, ·) (reread_finite item all)) (rereadMembers_finite members all)

end

end Json

/-- The JSON library: printing and reading, as functions that may throw. -/
structure JsonLibrary (D : Type) where
  dump : Json D → Except Str Str
  parse : Str → Except Str (Json D)
  finite : D → Bool
  /-- Printable documents print, and read back as they were. -/
  parse_dump : ∀ j : Json D, j.Printable → ∃ text, dump j = .ok text ∧ parse text = .ok (j.reread finite)
  /-- What is read can be printed: the reader refuses text that is not valid UTF-8. -/
  parse_printable : ∀ (text : Str) (j : Json D), parse text = .ok j → j.Printable

end Actuator.Lib

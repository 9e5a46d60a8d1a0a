import CodecTables.Source.Constant
import CodecTables.Source.TypeTable

/-!
# What a source declares

The names that the statements of a source declare, and the arrays of bytes among its declarations.
-/

namespace CodecTables.Source

namespace Node

/-- The name that a statement declares. -/
def declares? : Node → Option String
  | assign (declarator _ (identifier name) _ _) _ => some name
  | _ => none

/-- The value that a statement gives to what it declares. -/
def value? : Node → Option Node
  | assign _ value => some value
  | _ => none

/-- The statement declares an array of bytes. -/
def isByteArray : Node → Bool
  | assign (declarator (arrayType (uintType bits)) _ _ _) _ => bits == 8
  | _ => false

/-- The declaration of a static array. -/
def declareArray (element : Node) (name : String) (isConstant : Bool) (elements : List Node) :
    Node :=
  assign (declarator (arrayType element) (identifier name) true isConstant) (literal elements)

/-- An array of other elements is no array of bytes. -/
theorem isByteArray_declareArray {element : Node} (other : element ≠ uint8) (name : String)
    (isConstant : Bool) (elements : List Node) :
    (declareArray element name isConstant elements).isByteArray = false := by
  cases element with
  | uintType bits =>
    have differs : bits ≠ 8 := by
      rintro rfl
      exact other rfl
    simpa [declareArray, isByteArray] using differs
  | _ => rfl

theorem structType_ne_uint8 (name : String) : structType name ≠ uint8 := nofun

theorem stringType_ne_uint8 : stringType ≠ uint8 := nofun

theorem uint32_ne_uint8 : uint32 ≠ uint8 := by simp [uint32, uint8]

end Node

/-- The names that a source declares, in the order of their declarations. -/
def declaredNames (source : List Node) : List String := source.filterMap Node.declares?

/-- The declarations of a name. -/
def declarations (source : List Node) (name : String) : List Node :=
  source.filter fun statement => statement.declares? == some name

/-- The arrays of bytes that a source declares. -/
def byteArrays (source : List Node) : List Node := source.filter Node.isByteArray

/-- The declaration of an array of bytes. -/
def declareBytes (data : List UInt8) (name : String) : Node :=
  .declareStaticConst byteArray name (bytesOf data)

/-- Declarations of bytes differ in the bytes or in the name. -/
theorem declareBytes_inj {data data' : List UInt8} {name name' : String} :
    declareBytes data name = declareBytes data' name' ↔ data = data' ∧ name = name' := by
  constructor
  · intro same
    have names : some name = some name' := congrArg Node.declares? same
    have values : some (bytesOf data) = some (bytesOf data') := congrArg Node.value? same
    refine ⟨?_, Option.some.inj names⟩
    have bytes : ∀ a b : UInt8, Node.hexInteger a.toNat Node.defaultWidth =
        .hexInteger b.toNat Node.defaultWidth → a = b := by
      intro a b digits
      have numbers : (a.toNat : Int) = b.toNat := (Node.hexInteger.inj digits).1
      exact UInt8.toNat_inj.mp (Int.ofNat.inj numbers)
    exact (List.map_inj_right bytes).mp (Node.bytesLiteral.inj (Option.some.inj values))
  · rintro ⟨rfl, rfl⟩
    rfl

/-- The declarations of a name in two sources are those of the first and of the second. -/
theorem declarations_append (source source' : List Node) (name : String) :
    declarations (source ++ source') name = declarations source name ++ declarations source' name :=
  List.filter_append _ _

/-- The arrays of bytes of two sources are those of the first and of the second. -/
theorem byteArrays_append (source source' : List Node) :
    byteArrays (source ++ source') = byteArrays source ++ byteArrays source' :=
  List.filter_append _ _

theorem byteArrays_singleton_of_not {statement : Node} (other : statement.isByteArray = false) :
    byteArrays [statement] = [] := by
  rw [byteArrays, List.filter_cons_of_neg (by simp [other]), List.filter_nil]

/-- A name has as many declarations as it is among the declared names. -/
theorem length_declarations (source : List Node) (name : String) :
    (declarations source name).length = (declaredNames source).count name := by
  rw [declaredNames, List.count_filterMap, List.countP_eq_length_filter]
  rfl

/-- A name that is declared at most once is declared by each of its declarations only. -/
theorem declarations_eq_singleton {source : List Node} {statement : Node} {name : String}
    (member : statement ∈ source) (declared : statement.declares? = some name)
    (once : (declaredNames source).count name ≤ 1) : declarations source name = [statement] := by
  have found : statement ∈ declarations source name :=
    List.mem_filter.mpr ⟨member, by simp [declared]⟩
  rw [← length_declarations] at once
  cases all : declarations source name with
  | nil =>
    rw [all] at found
    exact absurd found List.not_mem_nil
  | cons first rest =>
    rw [all, List.length_cons] at once
    have empty : rest = [] := List.length_eq_zero_iff.mp (by omega)
    rw [all, empty, List.mem_singleton] at found
    rw [empty, found]

end CodecTables.Source

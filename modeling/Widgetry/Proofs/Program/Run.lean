import Widgetry.Proofs.Lists
import Widgetry.Proofs.Program.Syntax
import Mathlib.Logic.Function.Basic
import Mathlib.Data.Option.Basic

/-! Execution of generated code. Objects live in a heap in the order of their construction, each
with the parts that its constructor made for it. A path is followed from object to object; what it
leads through must be there. A block has a scope of its own, in which its variables are declared
from the start and have no value before their declaration is executed; an inner variable hides an
outer one of the same name. -/

namespace Widgetry.Program

/-! ### Objects -/

/-- An object, by the construction that made it and the members that lead to it from the constructed
object. The constructed object itself is the part without any. -/
structure Address where
  construction : Nat
  part : List String
  deriving DecidableEq

inductive Value where
  | text (value : String)
  /-- Something that the code imports, such as a constant. -/
  | global (p : Path)
  | object (address : Address)
  deriving DecidableEq

inductive Member where
  | value (v : Value)
  | list (items : List Value)
  deriving DecidableEq

/-- An object with the class and the arguments of its construction. Members are known by the part
that they belong to, and their name. -/
structure Object where
  className : Path
  arguments : List Value
  members : List String → String → Option Member

def Object.set (o : Object) (part : List String) (name : String) (m : Member) : Object :=
  { o with members := fun part' name' =>
      if part' = part ∧ name' = name then some m else o.members part' name' }

/-- The objects in the order of their construction. -/
abbrev Heap := List Object

namespace Heap

/-- Sets a member of the object at an address. -/
def put (heap : Heap) (a : Address) (name : String) (m : Member) : Heap :=
  heap.modify a.construction (·.set a.part name m)

/-- A member of the object at an address. -/
def member? (heap : Heap) (a : Address) (name : String) : Option Member :=
  heap[a.construction]? >>= fun o => o.members a.part name

/-- The object that holds the last member of a path, and the name of this member. Each of the
members before it must hold the object where the path goes on. -/
def holder? (heap : Heap) : Address → List String → Option (Address × String)
  | _, [] => none
  | a, [name] => some (a, name)
  | a, name :: next :: path =>
    match heap.member? a name with
    | some (.value (.object b)) => holder? heap b (next :: path)
    | _ => none

/-- The member that a path leads to. -/
def get? (heap : Heap) (a : Address) (path : List String) : Option Member :=
  heap.holder? a path >>= fun (holder, name) => heap.member? holder name

end Heap

/-- What the code runs in: the members that a constructor gives to a new object and its parts, by
the number of the construction, and the objects that the component holds. -/
structure Setting where
  fresh : Path → List Value → Nat → List String → String → Option Member
  component : String → Option Address

/-- A new object of a class. -/
def Setting.new (w : Setting) (className : Path) (arguments : List Value) (n : Nat) : Object :=
  ⟨className, arguments, w.fresh className arguments n⟩

/-! ### Scopes -/

/-- The variables of a block: the declared ones, and the objects of those that have a value. -/
abbrev Scope := String → Option (Option Address)

/-- What a name stands for; nothing if it is not declared. -/
def lookup : List Scope → String → Option (Option Address)
  | [], _ => none
  | scope :: scopes, name =>
    match scope name with
    | some found => some found
    | none => lookup scopes name

def Statement.declared? : Statement → Option String
  | declare name .. => some name
  | _ => none

/-- The scope of a block before its first statement. -/
def scopeOf (body : List Statement) : Scope := fun name =>
  if name ∈ body.filterMap Statement.declared? then some none else none

/-! ### Execution -/

structure State where
  heap : Heap
  scopes : List Scope

namespace State

variable (w : Setting) (s : State)

/-- The object that a path begins with, and the members that lead on from it. -/
def locate (p : Path) : Option (Address × List String) :=
  if p.head = "this" then
    match p.members with
    | name :: members => (w.component name).map (·, members)
    | [] => none
  else
    match lookup s.scopes p.head with
    | some (some address) => some (address, p.members)
    | _ => none

/-- A path begins with a global name. -/
def isGlobal (p : Path) : Bool := p.head ≠ "this" && (lookup s.scopes p.head).isNone

def value? : Operand → Option Value
  | .text value => some (.text value)
  | .path p =>
    if s.isGlobal p then some (.global p)
    else
      match s.locate w p with
      | some (address, []) => some (.object address)
      | some (address, path) =>
        match s.heap.get? address path with
        | some (.value v) => some v
        | _ => none
      | none => none

/-- A variable of the innermost block gets a new object. -/
def declare (name : String) (className : Path) (arguments : List Value) : Option State :=
  match s.scopes with
  | scope :: scopes =>
    if scope name = some none then
      some ⟨s.heap ++ [w.new className arguments s.heap.length],
        Function.update scope name (some (some ⟨s.heap.length, []⟩)) :: scopes⟩
    else none
  | [] => none

end State

variable (w : Setting)

mutual

def exec : Statement → State → Option State
  | .block body, s => do
    guard (body.filterMap Statement.declared?).Nodup
    let after ← execAll body { s with scopes := scopeOf body :: s.scopes }
    return { after with scopes := s.scopes }
  | .declare name className arguments, s => do
    guard (s.isGlobal className)
    s.declare w name className (← arguments.mapM (s.value? w))
  | .assign target value, s => do
    let (address, path) ← s.locate w target
    let (holder, name) ← s.heap.holder? address path
    guard (holder.construction < s.heap.length)
    return { s with heap := s.heap.put holder name (.value (← s.value? w value)) }
  | .push list item, s => do
    let (address, path) ← s.locate w list
    let (holder, name) ← s.heap.holder? address path
    match s.heap.member? holder name with
    | some (.list items) =>
      return { s with heap := s.heap.put holder name (.list (items ++ [← s.value? w item])) }
    | _ => none

def execAll : List Statement → State → Option State
  | [], s => some s
  | t :: ts, s => do execAll ts (← exec t s)

end

/-- The heap after a piece of code has been executed as the body of a function. -/
def run (program : List Statement) (heap : Heap) : Option Heap :=
  (exec w (.block program) ⟨heap, []⟩).map State.heap

/-! ### Heaps -/

@[simp] theorem Object.set_set (o : Object) (part : List String) (name : String) (m m' : Member) :
    (o.set part name m).set part name m' = o.set part name m' := by
  unfold set
  congr 1
  funext part' name'
  split_ifs with h
  · rfl
  · exact if_neg h

namespace Heap

variable {heap : Heap} {a : Address} {name : String} {m : Member}

@[simp] theorem length_put : (heap.put a name m).length = heap.length := by
  simp [put]

theorem lt_length_of_member? (h : heap.member? a name = some m) :
    a.construction < heap.length := by
  obtain ⟨o, ho, -⟩ := Option.bind_eq_some_iff.1 h
  exact (List.getElem?_eq_some_iff.1 ho).1

/-- Old objects are set below new ones. -/
theorem put_append (h : a.construction < heap.length) (rest : Heap) :
    put (heap ++ rest) a name m = put heap a name m ++ rest := modify_append_left h rest

/-- The first of the new objects is set. -/
theorem put_length (part : List String) (o : Object) (rest : Heap) :
    put (heap ++ o :: rest) ⟨heap.length, part⟩ name m = heap ++ o.set part name m :: rest :=
  modify_length heap o rest

theorem put_put (m' : Member) : put (heap.put a name m) a name m' = heap.put a name m' := by
  simp [put, List.modify_modify_eq, Function.comp_def]

theorem member?_put (h : a.construction < heap.length) :
    (heap.put a name m).member? a name = some m := by
  simp [put, member?, List.getElem?_eq_getElem h, Object.set]

theorem member?_put_of_ne {b : Address} {other : String} (h : ¬(b = a ∧ other = name)) :
    (heap.put a name m).member? b other = heap.member? b other := by
  simp only [put, member?, List.getElem?_modify]
  split_ifs with hconstruction
  · cases heap[b.construction]? with
    | none => rfl
    | some o =>
      have hother : ¬(b.part = a.part ∧ other = name) := fun ⟨hpart, hname⟩ =>
        h ⟨by cases a; cases b; simp_all, hname⟩
      simp [Object.set, hother]
  · simp

theorem member?_append (h : heap.member? a name = some m) (rest : Heap) :
    member? (heap ++ rest) a name = some m := by
  rw [← h, member?, List.getElem?_append_left (lt_length_of_member? h), member?]

/-- Setting a member to what it is changes nothing. -/
theorem put_member? (h : heap.member? a name = some m) : heap.put a name m = heap := by
  obtain ⟨o, ho, hm⟩ := Option.bind_eq_some_iff.1 h
  have hset : o.set a.part name m = o := by
    unfold Object.set
    congr 1
    funext part' name'
    split_ifs with hsame
    · rw [hsame.1, hsame.2, hm]
    · rfl
  apply List.ext_getElem?
  intro i
  rw [put, List.getElem?_modify]
  by_cases hi : a.construction = i
  · subst hi
    simp [ho, hset]
  · simp [hi]

/-- A path leads where it led when there are new objects. -/
theorem holder?_append {path : List String} {found : Address × String}
    (h : heap.holder? a path = some found) (rest : Heap) :
    holder? (heap ++ rest) a path = some found := by
  fun_induction holder? heap a path with
  | case1 => cases h
  | case2 a name => exact h
  | case3 a name next path b hmember ih =>
    rw [holder?, member?_append hmember]
    exact ih h
  | case4 => cases h

/-- A path leads where it led when a list is changed: no path goes on from a list. -/
theorem holder?_put_list {items : List Value} (h : heap.member? a name = some (.list items))
    (items' : List Value) (b : Address) (path : List String) :
    (heap.put a name (.list items')).holder? b path = heap.holder? b path := by
  have hlt := lt_length_of_member? h
  fun_induction holder? heap b path with
  | case1 => rfl
  | case2 b last => rfl
  | case3 b first next path c hmember ih =>
    have hother : ¬(b = a ∧ first = name) := by
      rintro ⟨rfl, rfl⟩
      simp [h] at hmember
    rw [holder?, member?_put_of_ne hother, hmember]
    exact ih
  | case4 b first next path hmember =>
    rw [holder?]
    by_cases hsame : b = a ∧ first = name
    · rw [hsame.1, hsame.2, member?_put hlt]
    · rw [member?_put_of_ne hsame]
      split
      · exact absurd ‹_› (hmember _)
      · rfl

/-- The path to a list still leads to it when it is changed and there are new objects. -/
theorem get?_put_list {items items' : List Value} (h : heap.member? a name = some (.list items))
    {b : Address} {path : List String} (hpath : heap.holder? b path = some (a, name))
    (rest : Heap) : get? (heap.put a name (.list items') ++ rest) b path = some (.list items') := by
  have hreached := (holder?_put_list h items' b path).trans hpath
  rw [get?, holder?_append hreached]
  exact member?_append (member?_put (lt_length_of_member? h)) rest

end Heap

/-! ### Parts -/

namespace Object

/-- Along the path up to its last member, each member holds the part of the object that it leads
to. The object is that of the given construction. -/
def Owns (o : Object) (n : Nat) (path : List String) : Prop :=
  ∀ part name next rest, path = part ++ name :: next :: rest →
    o.members part name = some (.value (.object ⟨n, part ++ [name]⟩))

/-- The member at the end of a path through the parts of the object. -/
def own? (o : Object) (path : List String) : Option Member :=
  o.members path.dropLast (path.getLastD "")

/-- Sets the member at the end of a path through the parts of the object. -/
def setOwn (o : Object) (path : List String) (m : Member) : Object :=
  o.set path.dropLast (path.getLastD "") m

variable {o : Object} {n : Nat} {path : List String} {m : Member}

/-- A single member is one of the object itself. -/
theorem owns_singleton (o : Object) (n : Nat) (name : String) : o.Owns n [name] := by
  intro part first next rest h
  have hlength := congrArg List.length h
  simp at hlength
  omega

theorem own?_setOwn : (o.setOwn path m).own? path = some m := by
  simp [own?, setOwn, set]

/-- What is set at the end of a path is on no way along it. -/
theorem Owns.setOwn (h : o.Owns n path) : (o.setOwn path m).Owns n path := by
  intro part name next rest hpath
  have hpart : part ≠ path.dropLast := by
    intro heq
    have hlength := congrArg List.length heq
    simp [hpath] at hlength
  rw [← h part name next rest hpath]
  simp [Object.setOwn, set, hpart]

end Object

namespace Heap

variable {heap : Heap} {o : Object} {n : Nat} {path : List String}

/-- A path through the parts of an object leads to the last part. -/
theorem holder?_of_owns (ho : heap[n]? = some o) (h : o.Owns n path) (hpath : path ≠ []) :
    heap.holder? ⟨n, []⟩ path = some (⟨n, path.dropLast⟩, path.getLastD "") := by
  have hfrom : ∀ (rest part : List String) (name : String), path = part ++ name :: rest →
      heap.holder? ⟨n, part⟩ (name :: rest) = some (⟨n, path.dropLast⟩, path.getLastD "") := by
    intro rest
    induction rest with
    | nil =>
      intro part name hpath
      simp [holder?, hpath]
    | cons next rest ih =>
      intro part name hpath
      have hmember : heap.member? ⟨n, part⟩ name = some (.value (.object ⟨n, part ++ [name]⟩)) := by
        simp [member?, ho, h part name next rest hpath]
      rw [holder?, hmember]
      exact ih (part ++ [name]) next (by simp [hpath])
  obtain ⟨name, rest, rfl⟩ := List.exists_cons_of_ne_nil hpath
  exact hfrom rest [] name rfl

theorem get?_of_owns (ho : heap[n]? = some o) (h : o.Owns n path) (hpath : path ≠ []) :
    heap.get? ⟨n, []⟩ path = o.own? path := by
  simp [get?, holder?_of_owns ho h hpath, member?, ho, Object.own?]

end Heap

/-! ### Rules -/

/-- The scope of a block with one variable. -/
def only (name : String) (held : Option Address) : Scope := fun other =>
  if other = name then some held else none

theorem lookup_only (name : String) (held : Option Address) (scopes : List Scope) :
    lookup (only name held :: scopes) name = some held := by
  simp [lookup, only]

theorem lookup_only_of_ne {name other : String} (h : other ≠ name) (held : Option Address)
    (scopes : List Scope) : lookup (only name held :: scopes) other = lookup scopes other := by
  simp [lookup, only, h]

variable {w}

theorem locate_only_of_ne {name : String} {p : Path} (h : p.head ≠ name) (held : Option Address)
    (scopes : List Scope) (heap heap' : Heap) :
    State.locate w ⟨heap', only name held :: scopes⟩ p = State.locate w ⟨heap, scopes⟩ p := by
  unfold State.locate
  rw [lookup_only_of_ne h]

theorem locate_variable {s : State} {name : String} (hname : name ≠ "this") {address : Address}
    (h : lookup s.scopes name = some (some address)) (path : List String) :
    s.locate w ⟨name, path⟩ = some (address, path) := by
  simp [State.locate, hname, h]

theorem value?_variable {s : State} {name : String} (hname : name ≠ "this") {address : Address}
    (h : lookup s.scopes name = some (some address)) :
    s.value? w (.path ⟨name, []⟩) = some (.object address) := by
  simp [State.value?, State.isGlobal, h, locate_variable hname h]

theorem execAll_append (ts us : List Statement) (s : State) :
    execAll w (ts ++ us) s = execAll w ts s >>= execAll w us := by
  induction ts generalizing s with
  | nil => simp [execAll]
  | cons t ts ih =>
    simp only [List.cons_append, execAll, ih]
    cases exec w t s <;> rfl

/-- A block with one variable. -/
theorem exec_block {body : List Statement} {name : String}
    (h : body.filterMap Statement.declared? = [name]) (heap : Heap) (scopes : List Scope) :
    exec w (.block body) ⟨heap, scopes⟩ =
      (execAll w body ⟨heap, only name none :: scopes⟩).map fun after => ⟨after.heap, scopes⟩ := by
  have hscope : scopeOf body = only name none := by
    funext other
    simp [scopeOf, only, h]
  rw [exec, h, hscope]
  cases execAll w body ⟨heap, only name none :: scopes⟩ <;> rfl

/-- A piece of code that declares no variable of its own. -/
theorem run_eq {program : List Statement} (h : program.filterMap Statement.declared? = [])
    (heap : Heap) :
    run w program heap = (execAll w program ⟨heap, [fun _ => none]⟩).map State.heap := by
  have hscope : scopeOf program = fun _ => none := by
    funext name
    simp [scopeOf, h]
  rw [run, exec, h, hscope]
  cases execAll w program ⟨heap, [fun _ => none]⟩ <;> rfl

/-- A variable gets a new object. -/
theorem exec_declare {name : String} {heap : Heap} {scopes : List Scope} {className : Path}
    (hclass : State.isGlobal ⟨heap, only name none :: scopes⟩ className)
    {arguments : List Operand} {values : List Value}
    (h : arguments.mapM (State.value? w ⟨heap, only name none :: scopes⟩) = some values) :
    exec w (.declare name className arguments) ⟨heap, only name none :: scopes⟩ =
      some ⟨heap ++ [w.new className values heap.length],
        only name (some ⟨heap.length, []⟩) :: scopes⟩ := by
  have hupdate : Function.update (only name none) name (some (some ⟨heap.length, []⟩)) =
      only name (some ⟨heap.length, []⟩) := by
    funext other
    by_cases hother : other = name <;> simp [only, hother]
  simp [exec, hclass, h, State.declare, only, ← hupdate]

theorem exec_push {list : Path} {item : Operand} {s : State} {address : Address}
    {path : List String} (hlist : s.locate w list = some (address, path)) {holder : Address}
    {name : String} (hholder : s.heap.holder? address path = some (holder, name))
    {items : List Value} (hitems : s.heap.member? holder name = some (.list items)) {v : Value}
    (hitem : s.value? w item = some v) :
    exec w (.push list item) s =
      some { s with heap := s.heap.put holder name (.list (items ++ [v])) } := by
  simp [exec, hlist, hholder, hitems, hitem]

theorem exec_assign {target : Path} {value : Operand} {s : State} {address : Address}
    {path : List String} (htarget : s.locate w target = some (address, path)) {holder : Address}
    {name : String} (hholder : s.heap.holder? address path = some (holder, name))
    (hlt : holder.construction < s.heap.length) {v : Value} (hvalue : s.value? w value = some v) :
    exec w (.assign target value) s =
      some { s with heap := s.heap.put holder name (.value v) } := by
  simp [exec, htarget, hholder, hlt, hvalue]

end Widgetry.Program

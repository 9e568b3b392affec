import ShadowLint.Number.Shortest
import ShadowLint.Text.Quoted

/-!
Values as a configuration gives them, and their two texts: the plain text of a
value, and the literal that shows it inside a message. The two differ for texts
only, which a literal puts between quotes.
-/

namespace ShadowLint

open Number (Binary64)

/-- A value of a property or of a message argument. The members of an object
stand in the order in which their names first came up. -/
inductive Value where
  | null
  | bool (value : Bool)
  | int (value : Int)
  | real (value : Binary64)
  | text (value : String)
  | list (items : List Value)
  | object (members : List (String × Value))
  deriving Inhabited, Repr

namespace Value

mutual

def literal : Value → String
  | null => "None"
  | bool true => "True"
  | bool false => "False"
  | int value => toString value
  | real value => value.text Binary64.messageSpelling
  | text value => Text.quoted value
  | list items => "[" ++ ", ".intercalate (itemLiterals items) ++ "]"
  | object members => "\x7b" ++ ", ".intercalate (memberLiterals members) ++ "\x7d"

def itemLiterals : List Value → List String
  | [] => []
  | item :: rest => item.literal :: itemLiterals rest

def memberLiterals : List (String × Value) → List String
  | [] => []
  | (name, value) :: rest =>
    (Text.quoted name ++ ": " ++ value.literal) :: memberLiterals rest

end

def plain : Value → String
  | text value => value
  | value => value.literal

example : (list [null, bool true, text "it's"]).literal = "[None, True, \"it's\"]" := by
  decide +kernel

end Value

/-! ## Members by name -/

/-- Puts a member into a list of members: under a name that is already there the
value is replaced where it stands, and a new name goes to the end. -/
def putMember {Content : Type} (members : List (String × Content)) (name : String)
    (content : Content) : List (String × Content) :=
  match members with
  | [] => [(name, content)]
  | (other, held) :: rest =>
    if other = name then (other, content) :: rest
    else (other, held) :: putMember rest name content

def membersOf {Content : Type} (entries : List (String × Content)) : List (String × Content) :=
  entries.foldl (fun members entry => putMember members entry.1 entry.2) []

example : membersOf [("a", 1), ("b", 2), ("a", 3)] = [("a", 3), ("b", 2)] := by decide

theorem names_putMember {Content : Type} (members : List (String × Content)) (name : String)
    (content : Content) :
    (putMember members name content).map Prod.fst =
      if name ∈ members.map Prod.fst then members.map Prod.fst
      else members.map Prod.fst ++ [name] := by
  induction members with
  | nil => rfl
  | cons member rest induction =>
    rcases member with ⟨other, held⟩
    rw [putMember]
    by_cases same : other = name
    · simp [same]
    · rw [if_neg same, List.map_cons, induction]
      by_cases inside : name ∈ rest.map Prod.fst <;> simp [inside, Ne.symm same]

theorem nodup_names_putMember {Content : Type} {members : List (String × Content)}
    (distinct : (members.map Prod.fst).Nodup) (name : String) (content : Content) :
    ((putMember members name content).map Prod.fst).Nodup := by
  rw [names_putMember]
  split
  · exact distinct
  · rename_i outside
    refine List.nodup_append.mpr ⟨distinct, by simp, ?_⟩
    intro other member added isAdded same
    rw [List.mem_singleton.mp isAdded] at same
    exact outside (same ▸ member)

theorem lookup_member_cons {Content : Type} (name other : String) (content : Content)
    (members : List (String × Content)) :
    ((name, content) :: members).lookup other =
      if other = name then some content else members.lookup other := by
  rw [List.lookup_cons]
  by_cases asked : other = name
  · simp [asked]
  · rw [if_neg asked, beq_eq_false_iff_ne.mpr asked]

theorem mem_of_lookup {Name Content : Type} [BEq Name] [LawfulBEq Name]
    {members : List (Name × Content)} {name : Name} {content : Content}
    (found : members.lookup name = some content) :
    (name, content) ∈ members := by
  rcases List.lookup_eq_some_iff.mp found with ⟨before, after, split, -⟩
  rw [split]
  exact List.mem_append_right _ List.mem_cons_self

theorem lookup_eq_none_iff_forall_ne {Name Content : Type} [BEq Name] [LawfulBEq Name]
    {members : List (Name × Content)} {name : Name} :
    members.lookup name = none ↔ ∀ member ∈ members, member.1 ≠ name := by
  rw [List.lookup_eq_none_iff]
  simp only [bne_iff_ne, ne_comm]

theorem lookup_of_mem {Name Content : Type} [BEq Name] [LawfulBEq Name]
    {members : List (Name × Content)} (distinct : (members.map Prod.fst).Nodup) {name : Name}
    {content : Content} (inside : (name, content) ∈ members) :
    members.lookup name = some content := by
  rcases List.append_of_mem inside with ⟨before, after, rfl⟩
  rw [List.map_append, List.map_cons] at distinct
  have apart := (List.nodup_append.mp distinct).2.2
  refine List.lookup_eq_some_iff.mpr ⟨before, after, rfl, fun member early => ?_⟩
  exact bne_iff_ne.mpr (apart _ (List.mem_map_of_mem early) _ List.mem_cons_self).symm

theorem lookup_eq_some_iff_mem {Name Content : Type} [BEq Name] [LawfulBEq Name]
    {members : List (Name × Content)} (distinct : (members.map Prod.fst).Nodup) {name : Name}
    {content : Content} :
    members.lookup name = some content ↔ (name, content) ∈ members :=
  ⟨mem_of_lookup, lookup_of_mem distinct⟩

theorem lookup_congr {Content : Type} {members others : List (String × Content)}
    (distinct : (members.map Prod.fst).Nodup) (distinctToo : (others.map Prod.fst).Nodup)
    {name : String} (same : ∀ content, (name, content) ∈ members ↔ (name, content) ∈ others) :
    members.lookup name = others.lookup name := by
  apply Option.ext
  intro content
  rw [lookup_eq_some_iff_mem distinct, lookup_eq_some_iff_mem distinctToo, same]

theorem lookup_putMember {Content : Type} (members : List (String × Content))
    (name other : String) (content : Content) :
    (putMember members name content).lookup other =
      if other = name then some content else members.lookup other := by
  induction members with
  | nil => rw [putMember, lookup_member_cons]
  | cons member rest induction =>
    rcases member with ⟨first, held⟩
    rw [putMember]
    by_cases same : first = name
    · subst same
      rw [if_pos rfl, lookup_member_cons, lookup_member_cons]
      split <;> rfl
    · rw [if_neg same, lookup_member_cons, lookup_member_cons, induction]
      by_cases asked : other = first
      · rw [if_pos asked, if_pos asked, if_neg (asked ▸ same)]
      · rw [if_neg asked, if_neg asked]

theorem mem_of_mem_putMember {Content : Type} {members : List (String × Content)} {name : String}
    {content : Content} {member : String × Content}
    (inside : member ∈ putMember members name content) :
    member = (name, content) ∨ member ∈ members := by
  induction members with
  | nil => exact .inl (List.mem_singleton.mp inside)
  | cons first rest induction =>
    rcases first with ⟨other, held⟩
    rw [putMember] at inside
    split at inside
    · rename_i same
      exact (List.mem_cons.mp inside).imp (same ▸ ·) (List.mem_cons_of_mem _)
    · rcases List.mem_cons.mp inside with here | later
      · exact .inr (here ▸ List.mem_cons_self)
      · exact (induction later).imp_right (List.mem_cons_of_mem _)

theorem nodup_names_membersOf {Content : Type} (entries : List (String × Content)) :
    ((membersOf entries).map Prod.fst).Nodup := by
  let Distinct (members : List (String × Content)) : Prop := (members.map Prod.fst).Nodup
  refine List.foldlRecOn (motive := Distinct) entries _ List.nodup_nil ?_
  intro members distinct entry _
  exact nodup_names_putMember distinct entry.1 entry.2

theorem putMember_of_forall_ne {Content : Type} {members : List (String × Content)}
    {name : String} (new : ∀ member ∈ members, member.1 ≠ name) (content : Content) :
    putMember members name content = members ++ [(name, content)] := by
  induction members with
  | nil => rfl
  | cons member rest induction =>
    rcases member with ⟨other, held⟩
    have different : other ≠ name := new (other, held) List.mem_cons_self
    rw [putMember, if_neg different, List.cons_append,
      induction fun later inside => new later (List.mem_cons_of_mem _ inside)]

theorem foldl_putMember_of_nodup {Content : Type} {members entries : List (String × Content)}
    (distinct : ((members ++ entries).map Prod.fst).Nodup) :
    entries.foldl (fun members entry => putMember members entry.1 entry.2) members =
      members ++ entries := by
  induction entries generalizing members with
  | nil => simp
  | cons entry rest induction =>
    have new : ∀ member ∈ members, member.1 ≠ entry.1 := by
      intro member inside same
      rw [List.map_append, List.nodup_append] at distinct
      exact distinct.2.2 member.1 (List.mem_map_of_mem inside) entry.1 (by simp) same
    have appended : members ++ entry :: rest = members ++ [entry] ++ rest := by simp
    rw [appended] at distinct ⊢
    rw [List.foldl_cons, putMember_of_forall_ne new]
    exact induction distinct

theorem membersOf_of_nodup {Content : Type} {entries : List (String × Content)}
    (distinct : (entries.map Prod.fst).Nodup) : membersOf entries = entries :=
  @foldl_putMember_of_nodup Content [] entries distinct

theorem mem_of_mem_membersOf {Content : Type} {entries : List (String × Content)}
    {member : String × Content} (inside : member ∈ membersOf entries) : member ∈ entries := by
  have each : ∀ other ∈ membersOf entries, other ∈ entries := by
    let Known (members : List (String × Content)) : Prop := ∀ other ∈ members, other ∈ entries
    have empty : Known [] := nofun
    refine List.foldlRecOn (motive := Known) entries _ empty ?_
    intro members known entry isEntry other put
    rcases mem_of_mem_putMember put with new | old
    · exact new ▸ isEntry
    · exact known other old
  exact each member inside

end ShadowLint

import Mathlib.Algebra.Order.Ring.Int
import Mathlib.Data.String.Basic

namespace OzPos

/-- A JSON document as it stands in a text: members in text order, repeated
names kept, integer literals of any size. -/
inductive Json where
  | null
  | bool (b : Bool)
  | int (n : Int)
  | float (literal : String)
  | str (s : String)
  | arr (items : List Json)
  | obj (members : List (String × Json))

namespace Json

mutual
def decEq : (a b : Json) → Decidable (a = b)
  | .null, .null => isTrue rfl
  | .bool a, .bool b => decidable_of_iff (a = b) (by simp)
  | .int a, .int b => decidable_of_iff (a = b) (by simp)
  | .float a, .float b => decidable_of_iff (a = b) (by simp)
  | .str a, .str b => decidable_of_iff (a = b) (by simp)
  | .arr a, .arr b =>
    have := decEqItems a b
    decidable_of_iff (a = b) (by simp)
  | .obj a, .obj b =>
    have := decEqMembers a b
    decidable_of_iff (a = b) (by simp)
  | .null, .bool _ | .null, .int _ | .null, .float _ | .null, .str _ | .null, .arr _
  | .null, .obj _ | .bool _, .null | .bool _, .int _ | .bool _, .float _ | .bool _, .str _
  | .bool _, .arr _ | .bool _, .obj _ | .int _, .null | .int _, .bool _ | .int _, .float _
  | .int _, .str _ | .int _, .arr _ | .int _, .obj _ | .float _, .null | .float _, .bool _
  | .float _, .int _ | .float _, .str _ | .float _, .arr _ | .float _, .obj _
  | .str _, .null | .str _, .bool _ | .str _, .int _ | .str _, .float _ | .str _, .arr _
  | .str _, .obj _ | .arr _, .null | .arr _, .bool _ | .arr _, .int _ | .arr _, .float _
  | .arr _, .str _ | .arr _, .obj _ | .obj _, .null | .obj _, .bool _ | .obj _, .int _
  | .obj _, .float _ | .obj _, .str _ | .obj _, .arr _ => isFalse (by simp)
def decEqItems : (a b : List Json) → Decidable (a = b)
  | [], [] => isTrue rfl
  | [], _ :: _ | _ :: _, [] => isFalse (by simp)
  | a :: as, b :: bs =>
    have := decEq a b
    have := decEqItems as bs
    decidable_of_iff (a = b ∧ as = bs) (by simp)
def decEqMembers : (a b : List (String × Json)) → Decidable (a = b)
  | [], [] => isTrue rfl
  | [], _ :: _ | _ :: _, [] => isFalse (by simp)
  | (k, a) :: as, (l, b) :: bs =>
    have := decEq a b
    have := decEqMembers as bs
    decidable_of_iff ((k = l ∧ a = b) ∧ as = bs) (by simp)
end

instance : DecidableEq Json := decEq

/-- `Map::insert`: the map is a `BTreeMap`, so names stay sorted and unique. -/
def insertMember (name : String) (value : Json) : List (String × Json) → List (String × Json)
  | [] => [(name, value)]
  | (key, old) :: rest =>
    if name < key then (name, value) :: (key, old) :: rest
    else if key = name then (name, value) :: rest
    else (key, old) :: insertMember name value rest

mutual
/-- The `serde_json::Value` of a document: sorted members, the last of a repeated name kept. -/
def value : Json → Json
  | .arr items => .arr (itemValues items)
  | .obj members => .obj (memberValues [] members)
  | j => j
def itemValues : List Json → List Json
  | [] => []
  | j :: rest => value j :: itemValues rest
def memberValues (acc : List (String × Json)) : List (String × Json) → List (String × Json)
  | [] => acc
  | (name, j) :: rest => memberValues (insertMember name (value j) acc) rest
end

def lookup (name : String) : List (String × Json) → Option Json
  | [] => none
  | (key, j) :: rest => if key = name then some j else lookup name rest

/-- `Value::get` on an object name. -/
def get? (name : String) : Json → Option Json
  | .obj members => lookup name members
  | _ => none

def asStr? : Json → Option String
  | .str s => some s
  | _ => none

def asI64? : Json → Option Int
  | .int n => if -2^63 ≤ n ∧ n < 2^63 then some n else none
  | _ => none

def asU64? : Json → Option Nat
  | .int n => if 0 ≤ n ∧ n < 2^64 then some n.toNat else none
  | _ => none

theorem lookup_insertMember (name : String) (v : Json) (members : List (String × Json))
    (key : String) :
    lookup key (insertMember name v members) =
      if name = key then some v else lookup key members := by
  induction members with
  | nil => rfl
  | cons m rest ih =>
    obtain ⟨k, old⟩ := m
    simp only [insertMember]
    split
    · rfl
    · split
      · rename_i h; subst h
        by_cases hkey : k = key <;> simp [lookup, hkey]
      · rename_i h
        by_cases hkey : k = key
        · subst hkey; simp [lookup, Ne.symm h]
        · simp [lookup, hkey, ih]

theorem lookup_append (key : String) (l r : List (String × Json)) :
    lookup key (l ++ r) = (lookup key l).or (lookup key r) := by
  induction l with
  | nil => simp [lookup]
  | cons m l ih =>
    obtain ⟨k, j⟩ := m
    by_cases h : k = key <;> simp [lookup, h, ih]

theorem lookup_memberValues (acc members : List (String × Json)) (key : String) :
    lookup key (memberValues acc members) =
      ((lookup key members.reverse).map value).or (lookup key acc) := by
  induction members generalizing acc with
  | nil => simp [memberValues, lookup]
  | cons m rest ih =>
    obtain ⟨k, j⟩ := m
    rw [memberValues, ih, lookup_insertMember, List.reverse_cons, lookup_append]
    by_cases h : k = key <;> cases lookup key rest.reverse <;> simp [lookup, h]

theorem asU64?_natCast {n : Nat} (h : n < 2^64) : asU64? (.int n) = some n := by
  have hn : (n : Int) < 2^64 := by exact_mod_cast h
  simp only [asU64?]
  rw [if_pos ⟨Int.natCast_nonneg n, hn⟩, Int.toNat_natCast]

/-- The members of a decoded object: names in order, none twice. -/
def SortedMembers (members : List (String × Json)) : Prop :=
  members.Pairwise (fun a b => a.1 < b.1)

variable {members : List (String × Json)}

theorem mem_insertMember {name : String} {v : Json}
    {m : String × Json} (h : m ∈ insertMember name v members) : m = (name, v) ∨ m ∈ members := by
  induction members with
  | nil => simpa [insertMember] using h
  | cons a rest ih =>
    obtain ⟨k, old⟩ := a
    simp only [insertMember] at h
    split at h
    · simpa using h
    · split at h
      · rcases List.mem_cons.mp h with h | h
        · exact .inl h
        · exact .inr (List.mem_cons_of_mem _ h)
      · rcases List.mem_cons.mp h with h | h
        · exact .inr (h ▸ List.mem_cons_self)
        · rcases ih h with h | h
          · exact .inl h
          · exact .inr (List.mem_cons_of_mem _ h)

theorem sortedMembers_insertMember (name : String) (v : Json)
    (h : SortedMembers members) : SortedMembers (insertMember name v members) := by
  induction members with
  | nil => simp [insertMember, SortedMembers]
  | cons m rest ih =>
    obtain ⟨k, old⟩ := m
    obtain ⟨hhead, hrest⟩ := List.pairwise_cons.mp h
    simp only [insertMember]
    split
    · rename_i hlt
      refine List.pairwise_cons.mpr ⟨?_, h⟩
      intro a ha
      rcases List.mem_cons.mp ha with rfl | ha
      · exact hlt
      · exact hlt.trans (hhead a ha)
    · split
      · rename_i hk
        subst hk
        exact List.pairwise_cons.mpr ⟨hhead, hrest⟩
      · rename_i hlt hk
        refine List.pairwise_cons.mpr ⟨?_, ih hrest⟩
        intro a ha
        rcases mem_insertMember ha with rfl | ha
        · exact lt_of_le_of_ne (not_lt.mp hlt) hk
        · exact hhead a ha

variable {acc : List (String × Json)}

theorem sortedMembers_memberValues (members : List (String × Json)) (h : SortedMembers acc) :
    SortedMembers (memberValues acc members) := by
  induction members generalizing acc with
  | nil => exact h
  | cons m rest ih => exact ih (sortedMembers_insertMember _ _ h)

theorem lookup_reverse (h : SortedMembers members)
    (key : String) : lookup key members.reverse = lookup key members := by
  induction members with
  | nil => rfl
  | cons m rest ih =>
    obtain ⟨k, j⟩ := m
    obtain ⟨hhead, hrest⟩ := List.pairwise_cons.mp h
    rw [List.reverse_cons, lookup_append, ih hrest]
    by_cases hk : k = key
    · subst hk
      have hnone : lookup k rest = none := by
        clear ih hrest h
        induction rest with
        | nil => rfl
        | cons a rest ih =>
          have hne : a.1 ≠ k := (hhead a List.mem_cons_self).ne'
          have hlater := ih (fun b hb => hhead b (List.mem_cons_of_mem _ hb))
          simp [lookup, hne, hlater]
      simp [lookup, hnone]
    · cases hl : lookup key rest <;> simp [lookup, hk, hl]

theorem get?_value_obj (h : SortedMembers members)
    (key : String) : (value (.obj members)).get? key = (lookup key members).map value := by
  rw [value, get?, lookup_memberValues, lookup_reverse h]
  simp [lookup]

theorem insertMember_of_lt (name : String) (v : Json)
    (h : ∀ m ∈ acc, m.1 < name) : insertMember name v acc = acc ++ [(name, v)] := by
  induction acc with
  | nil => rfl
  | cons m rest ih =>
    obtain ⟨k, old⟩ := m
    have hk : k < name := h _ List.mem_cons_self
    have hrest := ih (fun m hm => h m (List.mem_cons_of_mem _ hm))
    rw [insertMember, if_neg (not_lt.mpr hk.le), if_neg hk.ne, hrest]
    rfl

theorem memberValues_of_sorted (members : List (String × Json))
    (hsorted : SortedMembers (acc ++ members)) (hdecoded : ∀ m ∈ members, m.2.value = m.2) :
    memberValues acc members = acc ++ members := by
  induction members generalizing acc with
  | nil => simp [memberValues]
  | cons m rest ih =>
    obtain ⟨name, j⟩ := m
    have hlast : ∀ m ∈ acc, m.1 < name := fun m hm =>
      (List.pairwise_append.mp hsorted).2.2 m hm _ List.mem_cons_self
    have hj : j.value = j := hdecoded (name, j) List.mem_cons_self
    rw [memberValues, hj, insertMember_of_lt name j hlast]
    rw [List.append_cons acc (name, j) rest] at hsorted ⊢
    exact ih hsorted (fun m hm => hdecoded m (List.mem_cons_of_mem _ hm))

theorem mem_memberValues {m : String × Json}
    (h : m ∈ memberValues acc members) : m ∈ acc ∨ ∃ m' ∈ members, m.2 = m'.2.value := by
  induction members generalizing acc with
  | nil => exact .inl h
  | cons first rest ih =>
    obtain ⟨name, j⟩ := first
    rcases ih h with h | ⟨m', hm', h⟩
    · rcases mem_insertMember h with rfl | h
      · exact .inr ⟨_, List.mem_cons_self, rfl⟩
      · exact .inl h
    · exact .inr ⟨m', List.mem_cons_of_mem _ hm', h⟩

mutual
theorem value_value : (j : Json) → j.value.value = j.value
  | .null | .bool _ | .int _ | .float _ | .str _ => by simp [value]
  | .arr items => by rw [value, value, itemValues_itemValues items]
  | .obj members => by
    have hsorted : SortedMembers ([] ++ memberValues [] members) :=
      sortedMembers_memberValues members List.Pairwise.nil
    have hdecoded : ∀ m ∈ memberValues [] members, m.2.value = m.2 := by
      intro m hm
      rcases mem_memberValues hm with hm | ⟨m', hm', heq⟩
      · cases hm
      · rw [heq]
        exact member_value_value members m' hm'
    rw [value, value, memberValues_of_sorted _ hsorted hdecoded, List.nil_append]
theorem itemValues_itemValues : (items : List Json) → itemValues
    (itemValues items) = itemValues items
  | [] => rfl
  | j :: rest => by rw [itemValues, itemValues, value_value j, itemValues_itemValues rest]
theorem member_value_value : (members : List (String × Json)) →
    ∀ m ∈ members, m.2.value.value = m.2.value
  | [] => by simp
  | (name, j) :: rest => by
    intro m hm
    rcases List.mem_cons.mp hm with rfl | hm
    · exact value_value j
    · exact member_value_value rest m hm
end

@[simp] theorem value_asStr? (j : Json) : j.value.asStr? = j.asStr? := by
  cases j <;> rfl

/-- What a derived `Deserialize` reads a struct from. -/
inductive Body where
  | map (members : List (String × Json))
  | seq (items : List Json)

/-- Objects by name, arrays by position; an array longer than the struct is refused. -/
def body? (fields : Nat) : Json → Option Body
  | .obj members => some (.map members)
  | .arr items => if items.length ≤ fields then some (.seq items) else none
  | _ => none

/-- The value a body has for a field; `none` refuses the struct, as a repeated field does. -/
def Body.field? (index : Nat) (name : String) : Body → Option (Option Json)
  | .map members =>
    match members.filter (fun m => m.1 = name) with
    | [] => some none
    | [m] => some (some m.2)
    | _ => none
  | .seq items => some items[index]?

variable (body : Body) (index : Nat) (name : String)

def Body.required {α : Type} (read : Json → Option α) : Option α :=
  match body.field? index name with
  | some (some j) => read j
  | _ => none

/-- A field under `#[serde(default)]`. -/
def Body.defaulted {α : Type} (read : Json → Option α) (default : α) : Option α :=
  match body.field? index name with
  | some (some j) => read j
  | some none => some default
  | none => none

/-- An `Option` as serde reads it: `null` is `None`. -/
def orNull {α : Type} (read : Json → Option α) : Json → Option (Option α)
  | .null => some none
  | j => (read j).map some

/-- An `Option` field without a default: left out of an object it is `None`,
left out of an array it is an error. -/
def Body.optional {α : Type} (read : Json → Option α) : Option (Option α) :=
  match body.field? index name, body with
  | some (some j), _ => orNull read j
  | some none, .map _ => some none
  | _, _ => none

/-- A `Vec` as serde reads it. -/
def list? {α : Type} (read : Json → Option α) : Json → Option (List α)
  | .arr items => items.mapM read
  | _ => none

end Json

/-- The text of a payload column, as `serde_json` sees it. -/
inductive Payload where
  | text (raw : String)
  | json (doc : Json)
  deriving DecidableEq

/-- `serde_json::from_str::<Value>`. -/
def Payload.value? : Payload → Option Json
  | .text _ => none
  | .json doc => some doc.value

/-- `serde_json::from_str` into a struct: the raw document, repeated fields and all. -/
def Payload.doc? : Payload → Option Json
  | .text _ => none
  | .json doc => some doc

end OzPos

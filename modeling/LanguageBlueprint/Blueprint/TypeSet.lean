/-
  LanguageBlueprint/Blueprint/TypeSet.lean
  ========================================
  **Sets of data types.**  A language declares which data types it exposes.  The
  set is its membership test, so two sets with the same members are equal, and
  its members are listed in the order of the vocabulary.

    * adding and removing decide membership of one type — `mem_insert`,
      `mem_erase`;
    * a set is found again from its list                — `ofList_toList`.
-/
import LanguageBlueprint.Vocabulary

namespace LanguageBlueprint

structure TypeSet where
  contains : DataType → Bool

namespace TypeSet

@[ext] theorem ext {a b : TypeSet} (h : ∀ t, a.contains t = b.contains t) : a = b := by
  cases a
  cases b
  congr
  exact funext h

instance : DecidableEq TypeSet := fun a b =>
  if h : ∀ t ∈ Vocabulary.all (α := DataType), a.contains t = b.contains t then
    .isTrue (ext (fun t => h t (Vocabulary.mem_all t)))
  else .isFalse (fun e => h (by simp [e]))

/-- The members in the order of the vocabulary. -/
def toList (types : TypeSet) : List DataType :=
  (Vocabulary.all (α := DataType)).filter types.contains

instance : Repr TypeSet := ⟨fun types precedence => reprPrec types.toList precedence⟩

def ofList (types : List DataType) : TypeSet := ⟨fun t => types.contains t⟩

def insert (type : DataType) (types : TypeSet) : TypeSet :=
  ⟨fun t => t == type || types.contains t⟩

def erase (type : DataType) (types : TypeSet) : TypeSet :=
  ⟨fun t => t != type && types.contains t⟩

@[simp] theorem mem_ofList (types : List DataType) (t : DataType) :
    (ofList types).contains t = types.contains t := rfl

@[simp] theorem mem_insert (type t : DataType) (types : TypeSet) :
    (types.insert type).contains t = (t == type || types.contains t) := rfl

@[simp] theorem mem_erase (type t : DataType) (types : TypeSet) :
    (types.erase type).contains t = (t != type && types.contains t) := rfl

theorem mem_toList {types : TypeSet} {t : DataType} :
    t ∈ types.toList ↔ types.contains t = true := by
  simp [toList, Vocabulary.mem_all]

theorem ofList_toList (types : TypeSet) : ofList types.toList = types := by
  ext t
  rw [mem_ofList, Bool.eq_iff_iff, List.contains_iff_mem, mem_toList]

theorem insert_eq_self {type : DataType} {types : TypeSet} (h : types.contains type = true) :
    types.insert type = types := by
  ext t
  by_cases ht : t = type <;> simp [ht, h]

theorem erase_eq_self {type : DataType} {types : TypeSet} (h : types.contains type = false) :
    types.erase type = types := by
  ext t
  by_cases ht : t = type <;> simp [ht, h]

end TypeSet

end LanguageBlueprint

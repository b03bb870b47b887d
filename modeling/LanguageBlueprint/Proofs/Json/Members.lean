/-
  LanguageBlueprint/Proofs/Json/Members.lean
  ==========================================
  **The order of the members.**  An object is read member by member.  Two members
  that are not the same field may be read in either order, if their fields keep
  their values in different places and one of the two draws no number; two that
  are the same field are refused in either order.  So the members of an object
  may be put in any order.

    * one member                     — `decodeMembers_cons`, `readMember_cases`;
    * two members change places      — `apart_readMember`, `decodeMembers_swap`;
    * any order                      — `decodeMembers_perm`.
-/
import LanguageBlueprint.Proofs.Json.Alike
import LanguageBlueprint.Proofs.Json.Faithful
import Mathlib.Data.List.Pairwise

namespace LanguageBlueprint

open Decode

/-! ### Fields that do not meet -/

namespace Field

variable {ρ α β : Type}

/-- Reading the field draws no number. -/
def Still (field : Field ρ) : Prop := ∀ depth json, Decode.Still (field.read depth json)

/-- What the one field changes the other one leaves as it is. -/
def Commute (field other : Field ρ) : Prop :=
  ∀ depth json json' change change', Yields (field.read depth json) change →
    Yields (other.read depth json') change' → ∀ r, change' (change r) = change (change' r)

@[simp] theorem of_name (name : String) (codec : Codec α) (get : ρ → α) (put : α → ρ → ρ)
    (absence : Absence ρ) : (Field.of name codec get put absence).name = name := rfl

@[simp] theorem of_absence (name : String) (codec : Codec α) (get : ρ → α) (put : α → ρ → ρ)
    (absence : Absence ρ) : (Field.of name codec get put absence).absence = absence := rfl

@[simp] theorem still_of {name : String} {codec : Codec α} {get : ρ → α} {put : α → ρ → ρ}
    {absence : Absence ρ} (h : codec.Still) : (Field.of name codec get put absence).Still :=
  fun depth json => agree_map (h depth json) (fun _ _ hab => congrArg put hab)

@[simp] theorem commute_of {name name' : String} {codec : Codec α} {codec' : Codec β} {get : ρ → α}
    {get' : ρ → β} {put : α → ρ → ρ} {put' : β → ρ → ρ} {absence absence' : Absence ρ}
    (hput : ∀ a b r, put' b (put a r) = put a (put' b r)) :
    (Field.of name codec get put absence).Commute (.of name' codec' get' put' absence') := by
  intro depth json json' change change' hchange hchange' r
  obtain ⟨a, rfl⟩ := yields_map hchange
  obtain ⟨b, rfl⟩ := yields_map hchange'
  exact hput a b r

end Field

/-- Two readings of changes may be made in either order: the changes commute, and one of the
readings draws no number. -/
structure Decode.Apart {ρ : Type} (x y : Decode (ρ → ρ)) : Prop where
  commute : ∀ change change', Yields x change → Yields y change' →
    ∀ r, change' (change r) = change (change' r)
  still : Still x ∨ Still y

namespace Decode

variable {ρ : Type}

theorem Apart.symm {x y : Decode (ρ → ρ)} (h : Apart x y) : Apart y x :=
  ⟨fun change change' hchange hchange' r => (h.commute change' change hchange' hchange r).symm,
    h.still.symm⟩

theorem apart_of_fails {x y : Decode (ρ → ρ)} (h : Fails x) : Apart x y := by
  refine ⟨fun change change' hchange _ => ?_, .inl h.agree⟩
  obtain ⟨supply, next, hrun⟩ := hchange
  rw [h supply] at hrun
  cases hrun

theorem apart_id (y : Decode (ρ → ρ)) : Apart (pure id) y := by
  refine ⟨fun change change' hchange _ r => ?_, .inl (agree_pure rfl)⟩
  obtain ⟨supply, next, hrun⟩ := hchange
  cases hrun
  rfl

end Decode

namespace Schema

variable {ρ : Type} {schema : Schema ρ} {depth : Nat} {closed : Bool}

/-- The fields have different names and keep their values in different places, and of any two of
them one draws no number. -/
structure Orderly (schema : Schema ρ) : Prop where
  names : schema.NamesDistinct
  commute : schema.fields.Pairwise Field.Commute
  still : ∀ field ∈ schema.fields, ∀ other ∈ schema.fields, field.name ≠ other.name →
    field.Still ∨ other.Still

/-- The fields have different names, keep their values in different places, and draw no numbers. -/
structure Quiet (schema : Schema ρ) : Prop where
  names : schema.NamesDistinct
  commute : schema.fields.Pairwise Field.Commute
  still : ∀ field ∈ schema.fields, field.Still

theorem Quiet.orderly (h : schema.Quiet) : schema.Orderly :=
  ⟨h.names, h.commute, fun field hfield _ _ _ => .inl (h.still field hfield)⟩

theorem Orderly.apart (h : schema.Orderly) {field other : Field ρ} (hfield : field ∈ schema.fields)
    (hother : other ∈ schema.fields) (hne : field.name ≠ other.name) (json json' : Json) :
    Decode.Apart (field.read depth json) (other.read depth json') := by
  have hcommutes : ∀ {f g : Field ρ}, f.Commute g → g.Commute f :=
    fun h depth json json' change change' hchange hchange' r =>
      (h depth json' json change' change hchange' hchange r).symm
  have : Std.Symm (@Field.Commute ρ) := ⟨fun _ _ => hcommutes⟩
  have hcommute : field.Commute other :=
    h.commute.forall hfield hother (fun heq => hne (congrArg Field.name heq))
  exact ⟨hcommute depth json json',
    (h.still field hfield other hother hne).imp (fun h => h depth json) (fun h => h depth json')⟩

/-! ### What has been read -/

theorem contains_congr {seen seen' : List String} {name : String}
    (h : name ∈ seen ↔ name ∈ seen') : seen.contains name = seen'.contains name := by
  rw [Bool.eq_iff_iff, List.contains_iff_mem, List.contains_iff_mem, h]

theorem complete_congr {seen seen' : List String} {fields : List (Field ρ)}
    (h : ∀ field ∈ fields, field.name ∈ seen ↔ field.name ∈ seen') (r : ρ) :
    complete seen fields r = complete seen' fields r := by
  induction fields generalizing r with
  | nil => rfl
  | cons field fields ih =>
      have hhead : seen.contains field.name = seen'.contains field.name :=
        contains_congr (h field (by simp))
      have htail : ∀ r, complete seen fields r = complete seen' fields r :=
        ih (fun other hother => h other (by simp [hother]))
      simp only [complete, hhead, htail]

theorem decodeMembers_congr {seen seen' : List String}
    (h : ∀ name ∈ schema.fields.map Field.name, name ∈ seen ↔ name ∈ seen')
    (members : List (Option String × Json)) (r : ρ) :
    schema.decodeMembers depth closed seen r members =
      schema.decodeMembers depth closed seen' r members := by
  have hname : ∀ field ∈ schema.fields, field.name ∈ seen ↔ field.name ∈ seen' :=
    fun field hfield => h field.name (List.mem_map_of_mem hfield)
  induction members generalizing seen seen' r with
  | nil => simp only [decodeMembers, complete_congr hname]
  | cons member members ih =>
      obtain ⟨key?, value⟩ := member
      cases key? with
      | none => rfl
      | some key =>
          cases hfind : schema.fields.find? (fun field => field.name == key) with
          | none => simp only [decodeMembers, hfind, ih h _ hname]
          | some field =>
              have hkey : field.name = key := by simpa using List.find?_some hfind
              have hseen : seen.contains key = seen'.contains key :=
                contains_congr (hkey ▸ hname field (List.mem_of_find?_eq_some hfind))
              have hmore : ∀ name ∈ schema.fields.map Field.name,
                  name ∈ key :: seen ↔ name ∈ key :: seen' := by
                intro name hmem
                simp only [List.mem_cons, h name hmem]
              have hrest : ∀ r, schema.decodeMembers depth closed (key :: seen) r members =
                  schema.decodeMembers depth closed (key :: seen') r members :=
                fun r => ih hmore r
                  (fun other hother => hmore other.name (List.mem_map_of_mem hother))
              simp only [decodeMembers, hfind, hseen, hrest]

/-! ### One member -/

/-- The keys that are seen once the member is read. -/
def seeing (seen : List String) (member : Option String × Json) : List String :=
  member.1.toList ++ seen

/-- The change that one member makes to the record. -/
def readMember (schema : Schema ρ) (depth : Nat) (seen : List String) :
    Option String × Json → Decode (ρ → ρ)
  | (none, _) => Decode.malformed
  | (some key, value) =>
      match schema.fields.find? (fun field => field.name == key) with
      | some field =>
          if seen.contains key then Decode.unfit (.duplicateField key) else field.read depth value
      | none => if value.isComplete then return id else Decode.malformed

/-- **An object is read member by member.** -/
theorem decodeMembers_cons (seen : List String) (r : ρ) (member : Option String × Json)
    (members : List (Option String × Json)) :
    schema.decodeMembers depth closed seen r (member :: members) =
      (schema.readMember depth seen member >>= fun change =>
        schema.decodeMembers depth closed (seeing seen member) (change r) members) := by
  obtain ⟨key?, value⟩ := member
  cases key? with
  | none => rfl
  | some key =>
      cases hfind : schema.fields.find? (fun field => field.name == key) with
      | some field =>
          simp only [decodeMembers, readMember, hfind]
          split
          · rfl
          · rfl
      | none =>
          -- the key of an unknown member is none of those that are asked for
          have hkey : ∀ name ∈ schema.fields.map Field.name,
              name ∈ seen ↔ name ∈ seeing seen (some key, value) := by
            intro name hname
            obtain ⟨field, hfield, rfl⟩ := List.mem_map.mp hname
            have hne : field.name ≠ key := by
              simpa using List.find?_eq_none.mp hfind field hfield
            simp [seeing, hne]
          simp only [decodeMembers, readMember, hfind]
          split
          · rw [pure_bind, decodeMembers_congr hkey]
            rfl
          · rfl

/-- A member fails to be read, changes nothing, or is a field. -/
theorem readMember_cases (schema : Schema ρ) (depth : Nat) (seen : List String)
    (member : Option String × Json) :
    Fails (schema.readMember depth seen member) ∨
    schema.readMember depth seen member = pure id ∨
    ∃ field ∈ schema.fields, member.1 = some field.name ∧
      schema.readMember depth seen member = field.read depth member.2 := by
  obtain ⟨key?, value⟩ := member
  cases key? with
  | none => exact .inl outcome_malformed
  | some key =>
      rw [readMember]
      split
      · rename_i field hfind
        split
        · exact .inl (outcome_unfit _)
        · have hkey : field.name = key := by simpa using List.find?_some hfind
          exact .inr (.inr ⟨field, List.mem_of_find?_eq_some hfind, by rw [hkey], rfl⟩)
      · split
        · exact .inr (.inl rfl)
        · exact .inl outcome_malformed

theorem fails_readMember_of_seen {seen : List String} {name : String} (value : Json)
    (hname : name ∈ schema.fields.map Field.name) (hseen : name ∈ seen) :
    Fails (schema.readMember depth seen (some name, value)) := by
  have hfound : (schema.fields.find? (fun field => field.name == name)).isSome := by
    obtain ⟨field, hfield, rfl⟩ := List.mem_map.mp hname
    exact List.find?_isSome.mpr ⟨field, hfield, by simp⟩
  obtain ⟨field, hfind⟩ := Option.isSome_iff_exists.mp hfound
  have hcontains : seen.contains name = true := by simpa using hseen
  intro supply
  simp only [readMember, hfind, hcontains, if_true, outcome_unfit]

theorem readMember_congr {seen seen' : List String} {member : Option String × Json}
    (h : ∀ key ∈ member.1, key ∈ schema.fields.map Field.name → (key ∈ seen ↔ key ∈ seen')) :
    schema.readMember depth seen member = schema.readMember depth seen' member := by
  obtain ⟨key?, value⟩ := member
  cases key? with
  | none => rfl
  | some key =>
      cases hfind : schema.fields.find? (fun field => field.name == key) with
      | none => simp only [readMember, hfind]
      | some field =>
          have hkey : field.name = key := by simpa using List.find?_some hfind
          have hmem : key ∈ schema.fields.map Field.name :=
            hkey ▸ List.mem_map_of_mem (List.mem_of_find?_eq_some hfind)
          have hseen : seen.contains key = seen'.contains key := contains_congr (h key rfl hmem)
          simp only [readMember, hfind, hseen]

/-- Two members that are not the same field may be read in either order. -/
theorem apart_readMember (horderly : schema.Orderly) (seen : List String)
    {member other : Option String × Json}
    (hne : ∀ key ∈ member.1, key ∈ other.1 → key ∉ schema.fields.map Field.name) :
    Decode.Apart (schema.readMember depth seen member) (schema.readMember depth seen other) := by
  rcases readMember_cases schema depth seen member with hfails | hid | ⟨field, hfield, hkey, hread⟩
  · exact apart_of_fails hfails
  · rw [hid]
    exact apart_id _
  rcases readMember_cases schema depth seen other with hfails | hid | ⟨field', hfield', hkey', hread'⟩
  · exact (apart_of_fails hfails).symm
  · rw [hid]
    exact (apart_id _).symm
  · have hnames : field.name ≠ field'.name := by
      intro heq
      exact hne field.name hkey (by rw [hkey', heq]; rfl) (List.mem_map_of_mem hfield)
    rw [hread, hread']
    exact horderly.apart hfield hfield' hnames member.2 other.2

/-! ### The order of the members -/

theorem alike_cons {seen : List String} {r : ρ} (member : Option String × Json)
    {members others : List (Option String × Json)}
    (h : ∀ seen r, Alike (schema.decodeMembers depth closed seen r members)
      (schema.decodeMembers depth closed seen r others)) :
    Alike (schema.decodeMembers depth closed seen r (member :: members))
      (schema.decodeMembers depth closed seen r (member :: others)) := by
  rw [decodeMembers_cons, decodeMembers_cons]
  exact alike_bind (alike_refl _) (fun change => h _ _)

theorem alike_append (before : List (Option String × Json))
    {members others : List (Option String × Json)}
    (h : ∀ seen r, Alike (schema.decodeMembers depth closed seen r members)
      (schema.decodeMembers depth closed seen r others)) :
    ∀ seen r, Alike (schema.decodeMembers depth closed seen r (before ++ members))
      (schema.decodeMembers depth closed seen r (before ++ others)) := by
  induction before with
  | nil => exact h
  | cons member before ih => exact fun seen r => alike_cons member ih

/-- Where two members in a row are the same field, the record is refused. -/
theorem fails_decodeMembers_twice {name : String} (hname : name ∈ schema.fields.map Field.name)
    (seen : List String) (r : ρ) (value value' : Json) (members : List (Option String × Json)) :
    Fails (schema.decodeMembers depth closed seen r
      ((some name, value) :: (some name, value') :: members)) := by
  rw [decodeMembers_cons]
  refine fails_bind_of_next (fun change => ?_)
  rw [decodeMembers_cons]
  exact fails_bind (fails_readMember_of_seen value' hname (by simp [seeing]))

theorem mem_seeing_swap {seen : List String} {member other : Option String × Json} {name : String} :
    name ∈ seeing (seeing seen member) other ↔ name ∈ seeing (seeing seen other) member := by
  simp only [seeing, List.mem_append]
  tauto

/-- **Two members in a row may change places.** -/
theorem decodeMembers_swap (horderly : schema.Orderly) (seen : List String) (r : ρ)
    (member other : Option String × Json) (members : List (Option String × Json)) :
    Alike (schema.decodeMembers depth closed seen r (member :: other :: members))
      (schema.decodeMembers depth closed seen r (other :: member :: members)) := by
  by_cases hsame : ∃ name ∈ schema.fields.map Field.name, member.1 = some name ∧ other.1 = some name
  · -- the same field twice: neither order is read
    obtain ⟨name, hname, hkey, hkey'⟩ := hsame
    obtain ⟨key?, value⟩ := member
    obtain ⟨key?', value'⟩ := other
    obtain rfl : key? = some name := hkey
    obtain rfl : key?' = some name := hkey'
    exact (fails_decodeMembers_twice hname seen r value value' members).alike
      (fails_decodeMembers_twice hname seen r value' value members)
  · have hne : ∀ key ∈ member.1, key ∈ other.1 → key ∉ schema.fields.map Field.name :=
      fun key hkey hkey' hname => hsame ⟨key, hname, hkey, hkey'⟩
    -- neither member looks at whether the other one was seen
    have hmember : schema.readMember depth (seeing seen other) member =
        schema.readMember depth seen member := by
      refine readMember_congr (fun key hkey hname => ?_)
      have hother : key ∉ other.1.toList := fun hkey' => hne key hkey (by simpa using hkey') hname
      simp only [seeing, List.mem_append, hother, false_or]
    have hother : schema.readMember depth (seeing seen member) other =
        schema.readMember depth seen other := by
      refine readMember_congr (fun key hkey hname => ?_)
      have hmember : key ∉ member.1.toList := fun hkey' => hne key (by simpa using hkey') hkey hname
      simp only [seeing, List.mem_append, hmember, false_or]
    have hapart : Decode.Apart (schema.readMember depth seen member)
        (schema.readMember depth seen other) := apart_readMember horderly seen hne
    simp only [decodeMembers_cons, hmember, hother]
    refine alike_swap hapart.still (fun change change' hchange hchange' => ?_)
    rw [hapart.commute change change' hchange hchange' r,
      decodeMembers_congr (fun name _ => mem_seeing_swap)]
    exact alike_refl _

theorem decodeMembers_perm (horderly : schema.Orderly)
    {members others : List (Option String × Json)} (h : members.Perm others) :
    ∀ seen r, Alike (schema.decodeMembers depth closed seen r members)
      (schema.decodeMembers depth closed seen r others) := by
  induction h with
  | nil => exact fun seen r => alike_refl _
  | cons member h ih => exact fun seen r => alike_cons member ih
  | swap member other members =>
      exact fun seen r => decodeMembers_swap horderly seen r other member members
  | trans h h' ih ih' => exact fun seen r => (ih seen r).trans (ih' seen r)

/-! ### The last member -/

/-- A record of which everything may be left out, and nothing of it is filled in, is complete. -/
theorem complete_of_blank {seen : List String} {fields : List (Field ρ)}
    (h : ∀ field ∈ fields, field.absence = .blank) (r : ρ) : complete seen fields r = pure r := by
  induction fields with
  | nil => rfl
  | cons field fields ih =>
      have hrest : complete seen fields r = pure r :=
        ih (fun other hother => h other (by simp [hother]))
      simp only [complete, h field (by simp), hrest, ite_self]

/-- A field that stands behind all other members changes what was read from these. -/
theorem decodeMembers_last (hnames : schema.NamesDistinct)
    (hblank : ∀ field ∈ schema.fields, field.absence = .blank) {field : Field ρ}
    (hfield : field ∈ schema.fields) {value : Json} {members : List (Option String × Json)}
    {seen : List String} (hseen : field.name ∉ seen)
    (hmembers : ∀ member ∈ members, member.1 ≠ some field.name) (r : ρ) :
    schema.decodeMembers depth true seen r (members ++ [(some field.name, value)]) =
      (do
        let s ← schema.decodeMembers depth true seen r members
        let change ← field.read depth value
        return change s) := by
  induction members generalizing seen r with
  | nil =>
      have hcontains : seen.contains field.name = false := by simpa using hseen
      simp only [List.nil_append, pure_bind, decodeMembers, find?_key hnames hfield, hcontains,
        Bool.false_eq_true, if_false, if_true, complete_of_blank hblank]
  | cons member members ih =>
      have hkey : field.name ∉ seeing seen member := by
        have hne : field.name ∉ member.1.toList := by
          simpa using hmembers member (by simp)
        simp [seeing, hne, hseen]
      rw [List.cons_append, decodeMembers_cons, decodeMembers_cons, bind_assoc]
      congr 1
      funext change
      exact ih hkey (fun other hother => hmembers other (by simp [hother])) (change r)

end Schema

end LanguageBlueprint

import GrowthGrammar.Proofs.Hash.Occupancy
import GrowthGrammar.Proofs.Work
import GrowthGrammar.Rule.Loading

/-!
Fields of mappings, as loading goes through them. The search for unknown fields finds each of them
and nothing else, whatever the hashes of the names are, because scattering loses no keys and makes
up none.
-/
namespace GrowthGrammar

@[simp]
theorem Data.entry?_text_cons (key name : Spelling) (value : Data) (rest : List (Data × Data)) :
    entry? ((.text key, value) :: rest) name =
      if key = name then some value else entry? rest name := by
  unfold entry?
  by_cases same : key = name
  · rw [if_pos same, List.find?_cons_of_pos (by exact beq_iff_eq.mpr same)]
    rfl
  · rw [if_neg same, List.find?_cons_of_neg (by exact fun here => same (beq_iff_eq.mp here))]

@[simp]
theorem Data.entry?_nil (name : Spelling) : entry? [] name = none := rfl

namespace Load

@[simp]
theorem isAmong_text (names : List String) (name : String) :
    isAmong names (.text name) = decide (name ∈ names) := by
  rw [isAmong, Bool.eq_iff_iff, List.any_eq_true, decide_eq_true_iff]
  constructor
  · rintro ⟨other, member, same⟩
    have same : Spelling.plain name = .plain other := beq_iff_eq.mp same
    cases same
    exact member
  · exact fun member => ⟨name, member, beq_self_eq_true (Spelling.plain name)⟩

/-- The extra fields that are looked for are those that are not among the allowed ones. -/
theorem extras_hold (allowed : List String) (fields : Fields) :
    ∃ size, ((Scatter.ofList (fields.map (·.1))).difference allowed.length
      (isAmong allowed)).Holds size ((fields.map (·.1)).filter fun key => !isAmong allowed key) :=
  Scatter.difference_holds (Scatter.ofList_roomy _) _ _

theorem extras_used_iff {allowed : List String} {fields : Fields} :
    ((Scatter.ofList (fields.map (·.1))).difference allowed.length (isAmong allowed)).used = 0 ↔
      ∀ field ∈ fields, isAmong allowed field.1 = true := by
  obtain ⟨size, extras⟩ := extras_hold allowed fields
  rw [extras.used, List.length_eq_zero_iff, List.filter_eq_nil_iff, List.forall_mem_map]
  simp only [Bool.not_eq_true', Bool.not_eq_false]

theorem checkFields_ok {fields : Fields} {allowed : List String}
    (known : ∀ field ∈ fields, isAmong allowed field.1 = true) (strict : Bool) (what : String) :
    checkFields strict fields allowed what = .ok () := by
  have used := extras_used_iff.mpr known
  unfold checkFields
  cases strict with
  | false => rfl
  | true => simp only [used]; rfl

theorem known_of_checkFields {fields : Fields} {allowed : List String} {what : String}
    (passed : checkFields true fields allowed what = .ok ()) :
    ∀ field ∈ fields, isAmong allowed field.1 = true := by
  rw [← extras_used_iff]
  by_contra left
  unfold checkFields at passed
  dsimp only at passed
  rw [if_pos rfl, if_pos (bne_iff_ne.mpr left)] at passed
  obtain ⟨sorted, -, listed⟩ := Work.bind_ok_iff.mp passed
  obtain ⟨line, -, refused⟩ := Work.bind_ok_iff.mp listed
  cases refused

theorem eq_map_of_mapping {what : String} {d : Data} {fields : Fields}
    (given : mapping what d = .ok fields) : d = .map fields := by
  cases d with
  | map entries =>
    cases given
    rfl
  | _ => cases given

theorem parts_list {fields : Fields} {name : String} {items : List Data}
    (found : Data.entry? fields name = some (.list items)) : parts fields name = .ok items := by
  unfold parts
  rw [found]
  cases items <;> rfl

theorem inner_map {fields entries : Fields} {name : String}
    (found : Data.entry? fields name = some (.map entries)) : inner fields name = .ok entries := by
  unfold inner
  rw [found]
  cases entries <;> rfl

theorem inner_none {fields : Fields} {name : String} (missing : Data.entry? fields name = none) :
    inner fields name = .ok [] := by
  unfold inner
  rw [missing]

end Load

end GrowthGrammar

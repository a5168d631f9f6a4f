/-!
# First occurrences

In a list whose members have keys, the first member with a key stands for it and
every later one repeats it. `firsts` and `repeats` part a list accordingly.
-/

namespace ProtocolHeaders.Name

variable {α : Type}

/-- The members whose key is neither seen before nor the key of an earlier member. -/
def firstsAfter (key : α -> String) (seen : List String) : List α -> List α
  | [] => []
  | item :: others =>
      if key item ∈ seen then firstsAfter key seen others
      else item :: firstsAfter key (key item :: seen) others

/-- The members whose key is seen before or is the key of an earlier member. -/
def repeatsAfter (key : α -> String) (seen : List String) : List α -> List α
  | [] => []
  | item :: others =>
      if key item ∈ seen then item :: repeatsAfter key seen others
      else repeatsAfter key (key item :: seen) others

/-- The members that are the first with their key, in order. -/
def firsts (key : α -> String) (items : List α) : List α :=
  firstsAfter key [] items

/-- The members whose key an earlier member has, in order. -/
def repeats (key : α -> String) (items : List α) : List α :=
  repeatsAfter key [] items

/-- Each item is a first or a repeat. -/
theorem length_firstsAfter_add_length_repeatsAfter (key : α -> String) (seen : List String)
    (items : List α) :
    (firstsAfter key seen items).length + (repeatsAfter key seen items).length =
      items.length := by
  induction items generalizing seen with
  | nil => rfl
  | cons item others inductionHypothesis =>
      simp only [firstsAfter, repeatsAfter]
      split
      · have tail := inductionHypothesis seen
        simp only [List.length_cons]
        omega
      · have tail := inductionHypothesis (key item :: seen)
        simp only [List.length_cons]
        omega

/-- Each member either is the first with its key or repeats it. -/
theorem length_firsts_add_length_repeats (key : α -> String) (items : List α) :
    (firsts key items).length + (repeats key items).length = items.length :=
  length_firstsAfter_add_length_repeatsAfter key [] items

/-- Repeats stand in the order of the items. -/
theorem repeatsAfter_sublist (key : α -> String) (seen : List String) (items : List α) :
    (repeatsAfter key seen items).Sublist items := by
  induction items generalizing seen with
  | nil => exact .slnil
  | cons item others inductionHypothesis =>
      simp only [repeatsAfter]
      split
      · exact (inductionHypothesis seen).cons_cons item
      · exact (inductionHypothesis _).cons item

/-- The repeats are members, in the same order. -/
theorem repeats_sublist (key : α -> String) (items : List α) :
    (repeats key items).Sublist items :=
  repeatsAfter_sublist key [] items

/-! ## Keys -/

/-- The keys of the firsts are those that were not seen before. -/
theorem mem_map_firstsAfter {key : α -> String} {seen : List String} {items : List α}
    {name : String} :
    name ∈ (firstsAfter key seen items).map key ↔ name ∈ items.map key ∧ name ∉ seen := by
  induction items generalizing seen with
  | nil => simp [firstsAfter]
  | cons item others inductionHypothesis =>
      simp only [firstsAfter]
      split
      · rename_i isSeen
        rw [inductionHypothesis, List.map_cons, List.mem_cons, or_and_right]
        refine ⟨.inr, fun either => either.resolve_left ?_⟩
        rintro ⟨rfl, unseen⟩
        exact unseen isSeen
      · rename_i unseen
        rw [List.map_cons, List.mem_cons, inductionHypothesis, List.map_cons, List.mem_cons,
          List.mem_cons, not_or]
        by_cases same : name = key item
        · subst same
          simp [unseen]
        · simp [same]

/-- The firsts have the same keys as all members. -/
theorem mem_map_firsts {key : α -> String} {items : List α} {name : String} :
    name ∈ (firsts key items).map key ↔ name ∈ items.map key := by
  rw [firsts, mem_map_firstsAfter]
  simp

/-- The firsts have distinct keys. -/
theorem nodup_map_firstsAfter (key : α -> String) (seen : List String) (items : List α) :
    ((firstsAfter key seen items).map key).Nodup := by
  induction items generalizing seen with
  | nil => exact .nil
  | cons item others inductionHypothesis =>
      simp only [firstsAfter]
      split
      · exact inductionHypothesis seen
      · refine List.nodup_cons.mpr ⟨fun member => ?_, inductionHypothesis _⟩
        exact (mem_map_firstsAfter.mp member).2 List.mem_cons_self

/-- No two of the firsts have the same key. -/
theorem nodup_map_firsts (key : α -> String) (items : List α) :
    ((firsts key items).map key).Nodup :=
  nodup_map_firstsAfter key [] items

/-- There are no repeats if the keys are distinct and were not seen before. -/
theorem repeatsAfter_eq_nil_iff {key : α -> String} {seen : List String} {items : List α} :
    repeatsAfter key seen items = [] ↔
      (items.map key).Nodup ∧ ∀ name ∈ items.map key, name ∉ seen := by
  induction items generalizing seen with
  | nil => simp [repeatsAfter]
  | cons item others inductionHypothesis =>
      rw [List.map_cons, List.nodup_cons, List.forall_mem_cons]
      simp only [repeatsAfter]
      split
      · rename_i isSeen
        simp [isSeen]
      · rename_i unseen
        rw [inductionHypothesis]
        simp only [List.mem_cons, not_or]
        constructor
        · rintro ⟨distinct, fresh⟩
          exact ⟨⟨fun member => (fresh _ member).1 rfl, distinct⟩, unseen,
            fun name member => (fresh name member).2⟩
        · rintro ⟨⟨notAgain, distinct⟩, -, fresh⟩
          refine ⟨distinct, fun name member => ⟨?_, fresh name member⟩⟩
          rintro rfl
          exact notAgain member

/-- All items are firsts if the keys are distinct and were not seen before. -/
theorem firstsAfter_eq_self {key : α -> String} {seen : List String} {items : List α}
    (distinct : (items.map key).Nodup) (fresh : ∀ name ∈ items.map key, name ∉ seen) :
    firstsAfter key seen items = items := by
  induction items generalizing seen with
  | nil => rfl
  | cons item others inductionHypothesis =>
      rw [List.map_cons] at distinct fresh
      obtain ⟨notAgain, othersDistinct⟩ := List.nodup_cons.mp distinct
      obtain ⟨itemFresh, othersFresh⟩ := List.forall_mem_cons.mp fresh
      have stillFresh : ∀ name ∈ others.map key, name ∉ key item :: seen := by
        intro name member
        rw [List.mem_cons, not_or]
        exact ⟨fun same => notAgain (same ▸ member), othersFresh name member⟩
      rw [firstsAfter, if_neg itemFresh, inductionHypothesis othersDistinct stillFresh]

/-- If the keys are distinct, each member is the first with its key. -/
theorem firsts_eq_self {key : α -> String} {items : List α} (distinct : (items.map key).Nodup) :
    firsts key items = items :=
  firstsAfter_eq_self distinct fun _ _ => List.not_mem_nil

/-- Nothing is repeated exactly if the keys are distinct. -/
theorem repeats_eq_nil_iff {key : α -> String} {items : List α} :
    repeats key items = [] ↔ (items.map key).Nodup := by
  rw [repeats, repeatsAfter_eq_nil_iff]
  simp

end ProtocolHeaders.Name

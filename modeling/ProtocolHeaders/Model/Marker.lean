/-!
# Markers in raw names

A raw name may say two things besides the name: a leading `readonly ` says that
the field is immutable, and a question mark anywhere that it is optional. Neither
belongs into generated code.
-/

namespace ProtocolHeaders.Marker

/-- The marker of immutable fields. -/
def readonly : List Char := ['r', 'e', 'a', 'd', 'o', 'n', 'l', 'y', ' ']

/-- The marker of optional fields. -/
def optional : Char := '?'

/-- A name without the readonly markers at its front, however many there are. -/
def dropReadonly (name : List Char) : List Char :=
  if readonly.isPrefixOf name then dropReadonly (name.drop readonly.length) else name
termination_by name.length
decreasing_by
  rename_i marked
  have := (List.isPrefixOf_iff_prefix.mp marked).length_le
  simp [readonly] at *
  omega

/-- A name without its leading readonly markers and without any optionality
marker. The readonly markers go first, so one that only appears when a question
mark is gone stays. -/
def stripChars (name : List Char) : List Char :=
  (dropReadonly name).filter (· != optional)

/-- The name that a raw name stands for in generated code. -/
def strip (name : String) : String :=
  String.ofList (stripChars name.toList)

/-- Whether a raw name says that its field is optional. -/
def isOptional (name : String) : Bool :=
  name.toList.contains optional

/-- A stripped name holds no optionality marker. -/
theorem optional_notMem_stripChars (name : List Char) : optional ∉ stripChars name := by
  simp [stripChars]

/-- A name that carries no marker. -/
def IsUnmarked (name : String) : Prop :=
  ¬ readonly <+: name.toList ∧ optional ∉ name.toList

instance (name : String) : Decidable (IsUnmarked name) :=
  inferInstanceAs (Decidable (_ ∧ _))

/-- There is nothing to strip from a name without markers. -/
theorem strip_of_isUnmarked {name : String} (unmarked : IsUnmarked name) :
    strip name = name := by
  obtain ⟨notReadonly, notOptional⟩ := unmarked
  have keepsFront : dropReadonly name.toList = name.toList := by
    rw [dropReadonly, if_neg (mt List.isPrefixOf_iff_prefix.mp notReadonly)]
  have keepsRest : name.toList.filter (· != optional) = name.toList := by
    refine List.filter_eq_self.mpr fun c member => ?_
    exact bne_iff_ne.mpr fun isOptional => notOptional (isOptional ▸ member)
  rw [strip, stripChars, keepsFront, keepsRest, String.ofList_toList]

end ProtocolHeaders.Marker

import Mathlib.Data.List.Nodup
import ProtocolHeaders.Header.Artifact

/-!
# Names of message constants

The headers of notifications and of requests declare a constant for each method, all of them in
one namespace. Two constants have one name exactly if their methods have one identifier. A
header reports this for two methods of its own, but a notification and a request are never
compared.
-/

namespace ProtocolHeaders.Header.Messages

/-- A header declares the constants of methods in their order, each with more code behind it. -/
def DeclaresConstants (options : Options) (text : String) (methods : List String) : Prop :=
  ∃ includes wrappers, wrappers.length = methods.length ∧
    text = source options includes
      (String.join (List.zipWith (methodConstant · ++ ·) methods wrappers))

/-- Blocks that each begin with the constant of their message are told apart from what stands
behind the constants. -/
theorem exists_wrappers {α : Type} {method block : α -> String}
    (begins : ∀ message, ∃ wrapper, block message = methodConstant (method message) ++ wrapper)
    (messages : List α) :
    ∃ wrappers, wrappers.length = (messages.map method).length ∧
      messages.map block = List.zipWith (methodConstant · ++ ·) (messages.map method) wrappers := by
  induction messages with
  | nil => exact ⟨[], rfl, rfl⟩
  | cons message others inductionHypothesis =>
      obtain ⟨wrapper, first⟩ := begins message
      obtain ⟨wrappers, sameLength, rest⟩ := inductionHypothesis
      refine ⟨wrapper :: wrappers, ?_, ?_⟩
      · rw [List.map_cons, List.length_cons, List.length_cons, sameLength]
      · rw [List.map_cons, List.map_cons, List.zipWith_cons_cons, first, rest]

/-- A header with such a block for each message declares their constants. -/
theorem declaresConstants_source {α : Type} {method block : α -> String}
    (begins : ∀ message, ∃ wrapper, block message = methodConstant (method message) ++ wrapper)
    (options : Options) (includes : List String) (messages : List α) :
    DeclaresConstants options (source options includes (String.join (messages.map block)))
      (messages.map method) := by
  obtain ⟨wrappers, sameLength, blocks⟩ := exists_wrappers begins messages
  rw [blocks]
  exact ⟨includes, wrappers, sameLength, rfl⟩

/-- The header of notifications declares their methods. -/
theorem declaresConstants_renderNotifications (options : Options) (model : Model) :
    DeclaresConstants options (renderNotifications options model)
      (model.notifications.map Notification.method) :=
  declaresConstants_source (fun _ => ⟨_, rfl⟩) options _ model.notifications

/-- The header of requests declares their methods. -/
theorem declaresConstants_renderRequests (options : Options) (model : Model) :
    DeclaresConstants options (renderRequests options model)
      (model.requests.map Request.method) :=
  declaresConstants_source (fun _ => ⟨_, rfl⟩) options _ model.requests

/-! ## Names and identifiers -/

/-- Different identifiers give different constants. -/
theorem constantName_eq_iff {method other : String} :
    constantName method = constantName other ↔ identifier method = identifier other := by
  constructor
  · intro same
    have sameCharacters := congrArg String.toList same
    simp only [constantName, String.toList_append, List.append_cancel_right_eq] at sameCharacters
    exact String.toList_inj.mp sameCharacters
  · intro same
    rw [constantName, same, constantName]

/-- Constants have distinct names if the identifiers are distinct. -/
theorem nodup_map_constantName_iff {methods : List String} :
    (methods.map constantName).Nodup ↔ (methods.map identifier).Nodup := by
  simp only [List.Nodup, List.pairwise_map, ne_eq, constantName_eq_iff]

/-- Each repeated method is reported: at the latest the method itself is found as one with its
identifier. -/
theorem length_collisions (methods : List String) :
    (collisions methods).length = (Name.repeats identifier methods).length := by
  rw [collisions, List.filterMap_length_eq_length]
  intro method repeated
  rw [Option.isSome_map, List.find?_isSome]
  exact ⟨method, (Name.repeats_sublist identifier methods).subset repeated, beq_self_eq_true _⟩

/-- Nothing is reported exactly if the methods have distinct identifiers. -/
theorem collisions_eq_nil_iff {methods : List String} :
    collisions methods = [] ↔ (methods.map identifier).Nodup := by
  rw [← List.length_eq_zero_iff, length_collisions, List.length_eq_zero_iff,
    Name.repeats_eq_nil_iff]

/-- For every model, the headers of its notifications and of its requests declare a constant for
each method. All these constants have distinct names exactly if neither header reports a
collision and no notification has the identifier of a request. -/
theorem constants_distinct_iff (options : Options) (model : Model) :
    ∃ notifications requests,
      Artifact.notifications.render options model = .ok notifications ∧
      Artifact.requests.render options model = .ok requests ∧
      DeclaresConstants options notifications (model.notifications.map Notification.method) ∧
      DeclaresConstants options requests (model.requests.map Request.method) ∧
      (((model.notifications.map Notification.method ++
            model.requests.map Request.method).map constantName).Nodup ↔
        Artifact.notifications.events options model = [] ∧
          Artifact.requests.events options model = [] ∧
          ∀ notification ∈ model.notifications, ∀ request ∈ model.requests,
            identifier notification.method ≠ identifier request.method) := by
  refine ⟨_, _, rfl, rfl, declaresConstants_renderNotifications options model,
    declaresConstants_renderRequests options model, ?_⟩
  rw [nodup_map_constantName_iff, List.map_append, List.nodup_append]
  simp only [Artifact.events, collisions_eq_nil_iff, List.map_map, List.forall_mem_map,
    Function.comp_apply]

/-- A model with a notification and a request of one identifier. -/
def sharedIdentifierModel : Model :=
  { notifications := [{ method := "$/progress" }]
    requests := [{ method := "window/progress" }] }

/-- A notification and a request may declare one constant without a report. -/
theorem shared_constant_is_not_reported :
    Artifact.notifications.events {} sharedIdentifierModel = [] ∧
      Artifact.requests.events {} sharedIdentifierModel = [] ∧
      (sharedIdentifierModel.notifications.map Notification.method ++
          sharedIdentifierModel.requests.map Request.method).map constantName =
        ["ProgressName", "ProgressName"] ∧
      ¬ ((sharedIdentifierModel.notifications.map Notification.method ++
          sharedIdentifierModel.requests.map Request.method).map constantName).Nodup := by
  decide +kernel

end ProtocolHeaders.Header.Messages

import ProtocolHeaders.Proofs.File.Writing

/-!
# Making directories

Making a directory and those on the way to it adds directories where nothing stood. No file is
made, lost or changed, whether it succeeds or stops on the way. It may still open a way to a
file that was there before.
-/

namespace ProtocolHeaders.FileSystem

open File (Content Entry Location)

/-- A later file system has directories where nothing stood before, and nothing else changed. -/
structure GainsDirectories (earlier later : FileSystem) : Prop where
  sameStart : later.workingDirectory = earlier.workingDirectory
  gained : ∀ location, later.entry? location = earlier.entry? location ∨
    (earlier.entry? location = none ∧ later.entry? location = some .directory)

/-- A file system that stays as it is gains nothing. -/
theorem GainsDirectories.refl (files : FileSystem) : files.GainsDirectories files :=
  ⟨rfl, fun _ => .inl rfl⟩

/-- What gains directories step by step gains only directories. -/
theorem GainsDirectories.trans {earlier middle later : FileSystem}
    (first : earlier.GainsDirectories middle) (second : middle.GainsDirectories later) :
    earlier.GainsDirectories later := by
  refine ⟨second.sameStart.trans first.sameStart, fun location => ?_⟩
  rcases first.gained location with kept | ⟨free, made⟩
  · rw [← kept]
    exact second.gained location
  · rcases second.gained location with kept | ⟨stillFree, -⟩
    · exact .inr ⟨free, kept.trans made⟩
    · rw [made] at stillFree
      cases stillFree

/-- Gaining directories keeps all that is there. -/
theorem GainsDirectories.keeps {earlier later : FileSystem}
    (gains : earlier.GainsDirectories later) : earlier.Keeps later where
  sameStart := gains.sameStart
  directory location stands := by
    rcases gains.gained location with kept | ⟨-, made⟩
    · exact kept.trans stands
    · exact made
  present location stands := by
    rcases gains.gained location with kept | ⟨-, made⟩
    · rwa [kept]
    · rw [made]
      rfl

/-- What stood somewhere before directories were made stands there still. -/
theorem GainsDirectories.entry?_eq_some {earlier later : FileSystem} {location : Location}
    {entry : Entry} (gains : earlier.GainsDirectories later)
    (stands : earlier.entry? location = some entry) : later.entry? location = some entry := by
  rcases gains.gained location with kept | ⟨free, -⟩
  · exact kept.trans stands
  · rw [free] at stands
    cases stands

/-- No file is made on the way. -/
theorem GainsDirectories.entry?_eq_file {earlier later : FileSystem} {location : Location}
    {content : Content} (gains : earlier.GainsDirectories later)
    (stands : later.entry? location = some (.file content)) :
    earlier.entry? location = some (.file content) := by
  rcases gains.gained location with kept | ⟨-, made⟩
  · exact kept.symm.trans stands
  · rw [made] at stands
    cases stands

/-- Making a directory adds nothing else. -/
theorem gainsDirectories_makeDirectory {files made : FileSystem} {path : String}
    (succeeded : files.makeDirectory path = .ok made) : files.GainsDirectories made := by
  obtain ⟨place, -, named⟩ := exists_of_bind_eq_ok succeeded
  cases place with
  | unnamed => cases named
  | named directory name trailing =>
      simp only [bind, Except.bind] at named
      split at named
      · cases named
      · split at named
        · cases named
        · rename_i free
          cases named
          refine ⟨rfl, fun location => ?_⟩
          rw [entry?_put files (by simp)]
          by_cases here : location = directory ++ [name]
          · rw [if_pos here, here]
            exact .inr ⟨by simpa using free, rfl⟩
          · rw [if_neg here]
            exact .inl rfl

/-- Making the first directory on a way up that can be made adds nothing else. -/
theorem gainsDirectories_makeHighest (files : FileSystem) (way : List String) :
    files.GainsDirectories (files.makeHighest way).2 := by
  induction way with
  | nil => exact .refl files
  | cons path shorter inductionHypothesis =>
      rw [makeHighest]
      cases made : files.makeDirectory path with
      | ok made' => exact gainsDirectories_makeDirectory made
      | error fault =>
          cases fault with
          | notFound => exact inductionHypothesis
          | _ =>
              dsimp only
              split <;> exact .refl files

/-- Making several directories adds nothing else, wherever it stops. -/
theorem gainsDirectories_makeAll (files : FileSystem) (paths : List String) :
    files.GainsDirectories (files.makeAll paths).2 := by
  induction paths generalizing files with
  | nil => exact .refl files
  | cons path longer inductionHypothesis =>
      rw [makeAll]
      cases made : files.makeDirectory path with
      | ok next => exact (gainsDirectories_makeDirectory made).trans (inductionHypothesis next)
      | error fault =>
          dsimp only
          split
          · exact inductionHypothesis files
          · exact .refl files

/-- Making a directory and those on the way to it makes nothing but directories, also if it
fails on the way. -/
theorem gainsDirectories_createDirectories (files : FileSystem) (path : String) :
    files.GainsDirectories (files.createDirectories path).2 := by
  have highest := gainsDirectories_makeHighest files (wayUp path)
  rw [createDirectories]
  split
  · rename_i fault made found
    rw [found] at highest
    exact highest
  · rename_i passed made found
    rw [found] at highest
    exact highest.trans (gainsDirectories_makeAll made passed.reverse)

end ProtocolHeaders.FileSystem

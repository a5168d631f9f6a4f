import ProtocolHeaders.File.System
import ProtocolHeaders.Name.Table

/-!
# Writing files

Putting something at one location of a file system changes no other, and no directory is ever
replaced. So what a path leads to stays in reach, whatever is written or made afterwards. What
is written at a path is put at one location, which does not depend on the text, and the path
leads to this location from then on.
-/

namespace ProtocolHeaders.FileSystem

open File (Fault Content Entry Location)

/-- Steps one after the other succeed if each of them does. -/
theorem exists_of_bind_eq_ok {α β : Type} {first : Except Fault α} {next : α -> Except Fault β}
    {result : β} (succeeded : (do let value <- first; next value) = .ok result) :
    ∃ value, first = .ok value ∧ next value = .ok result := by
  cases first with
  | error fault => cases succeeded
  | ok value => exact ⟨value, rfl, succeeded⟩

/-! ## Entries -/

/-- An entry that is set is found at its location, and the others as before. -/
theorem lookup_setEntry (location other : Location) (entry : Entry)
    (entries : List (Location × Entry)) :
    (setEntry location entry entries).lookup other =
      if other = location then some entry else entries.lookup other := by
  induction entries with
  | nil => rw [setEntry, lookup_cons_eq_ite]
  | cons first others inductionHypothesis =>
      rw [setEntry]
      by_cases replaced : first.1 = location
      · rw [if_pos replaced, lookup_cons_eq_ite, lookup_cons_eq_ite, replaced]
        by_cases same : other = location
        · rw [if_pos same, if_pos same]
        · rw [if_neg same, if_neg same, if_neg same]
      · rw [if_neg replaced, lookup_cons_eq_ite, lookup_cons_eq_ite, inductionHypothesis]
        by_cases here : other = first.1
        · rw [if_pos here, if_pos here, if_neg (here ▸ replaced)]
        · rw [if_neg here, if_neg here]

/-- What is put at a location stands there, and all else is as before. -/
theorem entry?_put (files : FileSystem) {location : Location} (notRoot : location ≠ [])
    (entry : Entry) (other : Location) :
    entry? (files.put location entry) other =
      if other = location then some entry else files.entry? other := by
  cases other with
  | nil => simp [notRoot.symm, entry?]
  | cons name names => simp [put, lookup_setEntry, entry?]

/-! ## Directories stay -/

/-- Where something stands in a file system, something stands in a later one, and where a
directory stands, a directory. -/
structure Keeps (earlier later : FileSystem) : Prop where
  sameStart : later.workingDirectory = earlier.workingDirectory
  directory : ∀ location, earlier.entry? location = some .directory ->
    later.entry? location = some .directory
  present : ∀ location, (earlier.entry? location).isSome -> (later.entry? location).isSome

/-- A file system keeps what it has. -/
theorem Keeps.refl (files : FileSystem) : files.Keeps files :=
  ⟨rfl, fun _ stands => stands, fun _ stands => stands⟩

/-- What is kept step by step is kept. -/
theorem Keeps.trans {earlier middle later : FileSystem} (first : earlier.Keeps middle)
    (second : middle.Keeps later) : earlier.Keeps later where
  sameStart := second.sameStart.trans first.sameStart
  directory location stands := second.directory location (first.directory location stands)
  present location stands := second.present location (first.present location stands)

/-- The root is a directory. -/
theorem ne_nil_of_ne_directory {files : FileSystem} {location : Location}
    (free : files.entry? location ≠ some .directory) : location ≠ [] := by
  rintro rfl
  exact free rfl

/-- What is not put in the place of a directory takes none away. -/
theorem keeps_put {files : FileSystem} {location : Location}
    (free : files.entry? location ≠ some .directory) (entry : Entry) :
    files.Keeps (files.put location entry) := by
  have notRoot := ne_nil_of_ne_directory free
  refine ⟨rfl, fun other stands => ?_, fun other stands => ?_⟩
  · have apart : other ≠ location := by
      rintro rfl
      exact free stands
    rw [entry?_put files notRoot, if_neg apart]
    exact stands
  · rw [entry?_put files notRoot]
    split
    · rfl
    · exact stands

/-! ## Walking -/

/-- The location that is one name on from another. -/
def step (files : FileSystem) (location : Location) (name : String) : Except Fault Location :=
  match files.entry? location with
  | some .directory =>
      if name = "" || name = "." then .ok location
      else if name = ".." then .ok location.dropLast
      else if nameLimit < name.utf8ByteSize then .error .nameTooLong
      else
        match files.entry? (location ++ [name]) with
        | some _ => .ok (location ++ [name])
        | none => .error .notFound
  | _ => .error .notDirectory

/-- A walk takes one step after the other. -/
theorem walk_cons (files : FileSystem) (location : Location) (name : String)
    (names : List String) :
    files.walk location (name :: names) = (do
      let next <- files.step location name
      files.walk next names) := by
  rw [walk, step]
  cases files.entry? location with
  | none => rfl
  | some entry =>
      cases entry with
      | file content => rfl
      | directory =>
          cases files.entry? (location ++ [name]) <;> dsimp only <;> repeat' split
          all_goals rfl

/-- A walk goes on from where its first part ends. -/
theorem walk_append (files : FileSystem) (location : Location) (first second : List String) :
    files.walk location (first ++ second) = (do
      let reached <- files.walk location first
      files.walk reached second) := by
  induction first generalizing location with
  | nil => rfl
  | cons name names inductionHypothesis =>
      rw [List.cons_append, walk_cons, walk_cons]
      cases files.step location name with
      | error fault => rfl
      | ok next => exact inductionHypothesis next

/-- A step out of a location leads somewhere only if this is a directory. -/
theorem entry?_of_step {files : FileSystem} {location next : Location} {name : String}
    (stepped : files.step location name = .ok next) :
    files.entry? location = some .directory := by
  rw [step] at stepped
  split at stepped
  · assumption
  · cases stepped

/-- A step to a name of a directory leads where something of this name stands. -/
theorem step_eq_ok_iff {files : FileSystem} {location next : Location} {name : String}
    (notEmpty : name ≠ "") (notHere : name ≠ ".") (notUp : name ≠ "..") :
    files.step location name = .ok next ↔
      files.entry? location = some .directory ∧ name.utf8ByteSize ≤ nameLimit ∧
        (files.entry? (location ++ [name])).isSome ∧ next = location ++ [name] := by
  constructor
  · intro stepped
    have isDirectory := entry?_of_step stepped
    simp only [step, isDirectory, notEmpty, notHere, notUp, decide_false, Bool.or_self,
      Bool.false_eq_true, if_false] at stepped
    split at stepped
    · cases stepped
    · rename_i fits
      split at stepped
      · rename_i entry stands
        cases stepped
        exact ⟨isDirectory, by omega, by rw [stands]; rfl, rfl⟩
      · cases stepped
  · rintro ⟨isDirectory, fits, stands, rfl⟩
    obtain ⟨entry, stands⟩ := Option.isSome_iff_exists.mp stands
    simp [step, isDirectory, notEmpty, notHere, notUp, Nat.not_lt.mpr fits, stands]

/-- A step that can be taken can be taken later. -/
theorem Keeps.step_eq_ok {files later : FileSystem} (keeps : files.Keeps later)
    {location next : Location} {name : String} (stepped : files.step location name = .ok next) :
    later.step location name = .ok next := by
  have isDirectory := entry?_of_step stepped
  have staysDirectory := keeps.directory _ isDirectory
  by_cases stays : (name = "" || name = ".") = true
  · simpa only [step, isDirectory, staysDirectory, stays, if_true] using stepped
  · by_cases isUp : name = ".."
    · simpa only [step, isDirectory, staysDirectory, stays, isUp, if_true, if_false] using stepped
    · obtain ⟨notEmpty, notHere⟩ : name ≠ "" ∧ name ≠ "." := by simpa using stays
      obtain ⟨-, fits, stands, rfl⟩ := (step_eq_ok_iff notEmpty notHere isUp).mp stepped
      exact (step_eq_ok_iff notEmpty notHere isUp).mpr
        ⟨staysDirectory, fits, keeps.present _ stands, rfl⟩

/-- A way that can be gone can be gone later. -/
theorem Keeps.walk_eq_ok {files later : FileSystem} (keeps : files.Keeps later)
    {names : List String} {location reached : Location}
    (walked : files.walk location names = .ok reached) :
    later.walk location names = .ok reached := by
  induction names generalizing location with
  | nil => exact walked
  | cons name names inductionHypothesis =>
      rw [walk_cons] at walked ⊢
      obtain ⟨next, stepped, walkedOn⟩ := exists_of_bind_eq_ok walked
      rw [keeps.step_eq_ok stepped]
      exact inductionHypothesis walkedOn

/-- Paths start where they did before. -/
theorem Keeps.origin_eq {files later : FileSystem} (keeps : files.Keeps later) (path : String) :
    later.origin path = files.origin path := by
  rw [origin, origin, keeps.sameStart]

/-- What a path leads to stays in reach. -/
theorem Keeps.resolve_eq_ok {files later : FileSystem} (keeps : files.Keeps later)
    {path : String} {location : Location} (resolved : files.resolve path = .ok location) :
    later.resolve path = .ok location := by
  rw [resolve] at resolved ⊢
  obtain ⟨_, isPath, walked⟩ := exists_of_bind_eq_ok resolved
  rw [isPath, keeps.origin_eq]
  exact keeps.walk_eq_ok walked

/-! ## Targets -/

/-- The location of the file that is written at a path. -/
def target (files : FileSystem) (path : String) : Except Fault Location := do
  match <- files.place path with
  | .unnamed => .error .isDirectory
  | .named directory name trailing => do
      if trailing then .error .isDirectory
      if nameLimit < name.utf8ByteSize then .error .nameTooLong
      if files.entry? (directory ++ [name]) == some .directory then .error .isDirectory
      return directory ++ [name]

/-- Where a file is written, and whether it can be, does not depend on its content. -/
theorem writeContent_eq_map_target (files : FileSystem) (path : String) (content : Content) :
    files.writeContent path content =
      (files.target path).map fun location => files.put location (.file content) := by
  rw [writeContent, target]
  cases files.place path with
  | error fault => rfl
  | ok place =>
      cases place with
      | unnamed => rfl
      | named directory name trailing =>
          simp only [bind, Except.bind]
          repeat' split
          all_goals rfl

/-- The names of a path less the empty ones at its end are all of them only if the last one is
not empty. -/
theorem ne_empty_of_getLast? {names : List String} {name : String}
    (last : ((names.reverse.dropWhile (· == "")).reverse).getLast? = some name) : name ≠ "" := by
  rw [List.getLast?_reverse] at last
  have differs := List.head?_dropWhile_not (· == "") names.reverse
  rw [last] at differs
  simpa using differs

/-- If no trailing name is empty, all are left. -/
theorem eq_of_length_trimmed {names : List String}
    (all : ¬ ((names.reverse.dropWhile (· == "")).reverse).length < names.length) :
    (names.reverse.dropWhile (· == "")).reverse = names := by
  have ending := List.dropWhile_suffix (l := names.reverse) (· == "")
  rw [List.reverse_eq_iff]
  refine ending.eq_of_length (Nat.le_antisymm ending.length_le ?_)
  simpa using all

/-- A path with a proper name at its end puts something new under this name. -/
theorem place_of_segments (files : FileSystem) {path : String} {way : List String} {name : String}
    (segments : Path.segments path = way ++ [name]) (notEmpty : name ≠ "") (notHere : name ≠ ".")
    (notUp : name ≠ "..") :
    files.place path = do
      checkPath path
      let directory <- files.walk (files.origin path) way
      if files.entry? directory != some .directory then .error .notDirectory
      return .named directory name false := by
  have names : ((way ++ [name]).reverse.dropWhile (· == "")).reverse = way ++ [name] := by
    simp [notEmpty]
  rw [place, segments, names]
  simp [notHere, notUp]

/-- The location of the file that is written under a name in a directory. -/
def targetIn (files : FileSystem) (directory : Location) (name : String) :
    Except Fault Location :=
  if files.entry? directory ≠ some .directory then .error .notDirectory
  else if nameLimit < name.utf8ByteSize then .error .nameTooLong
  else if files.entry? (directory ++ [name]) = some .directory then .error .isDirectory
  else .ok (directory ++ [name])

/-- A file has its place in a directory unless its name is too long or a directory has it. -/
theorem targetIn_eq_ok_iff {files : FileSystem} {directory location : Location} {name : String} :
    files.targetIn directory name = .ok location ↔
      files.entry? directory = some .directory ∧ name.utf8ByteSize ≤ nameLimit ∧
        files.entry? (directory ++ [name]) ≠ some .directory ∧ location = directory ++ [name] := by
  rw [targetIn]
  by_cases isDirectory : files.entry? directory = some .directory
  · by_cases long : nameLimit < name.utf8ByteSize
    · simp [isDirectory, long, Nat.not_le.mpr long]
    · by_cases taken : files.entry? (directory ++ [name]) = some .directory
      · simp [isDirectory, long, taken]
      · simp [isDirectory, long, taken, Nat.not_lt.mp long, eq_comm]
  · simp [isDirectory]

/-- A path with a proper name at its end leads to a target in the directory before it. -/
theorem target_of_segments (files : FileSystem) {path : String} {way : List String}
    {name : String} (segments : Path.segments path = way ++ [name]) (notEmpty : name ≠ "")
    (notHere : name ≠ ".") (notUp : name ≠ "..") :
    files.target path = (do
      checkPath path
      let directory <- files.walk (files.origin path) way
      files.targetIn directory name) := by
  rw [target, place_of_segments files segments notEmpty notHere notUp]
  cases checkPath path with
  | error fault => rfl
  | ok _ =>
      cases files.walk (files.origin path) way with
      | error fault => rfl
      | ok directory =>
          by_cases isDirectory : files.entry? directory = some .directory
          · by_cases long : nameLimit < name.utf8ByteSize
            · simp [targetIn, isDirectory, long, bind, Except.bind, pure, Except.pure]
            · by_cases taken : files.entry? (directory ++ [name]) = some .directory <;>
                simp [targetIn, isDirectory, long, taken, bind, Except.bind, pure, Except.pure]
          · simp [targetIn, isDirectory, bind, Except.bind]

/-- What is put under a name without slashes behind it is named by the end of the path. -/
theorem exists_segments_of_place {files : FileSystem} {path : String} {directory : Location}
    {name : String} (placed : files.place path = .ok (.named directory name false)) :
    ∃ way, Path.segments path = way ++ [name] ∧ name ≠ "" ∧ name ≠ "." ∧ name ≠ ".." := by
  rw [place] at placed
  obtain ⟨_, -, placed⟩ := exists_of_bind_eq_ok placed
  dsimp only at placed
  split at placed
  · cases placed
  · rename_i last
    obtain ⟨_, -, placed⟩ := exists_of_bind_eq_ok placed
    split at placed
    · cases placed
    · split at placed
      · cases placed
      · rename_i proper
        simp only [pure, Except.pure, Except.ok.injEq, Place.named.injEq] at placed
        obtain ⟨-, rfl, all⟩ := placed
        have notEmpty := ne_empty_of_getLast? last
        -- No slash stands behind the name, so the last name of the path is the one placed.
        rw [eq_of_length_trimmed (of_decide_eq_false all)] at last
        obtain ⟨way, ends⟩ := List.getLast?_eq_some_iff.mp last
        exact ⟨way, ends, notEmpty, by simpa using proper⟩

/-- Only a path with a proper name at its end has a target. -/
theorem exists_segments_of_target {files : FileSystem} {path : String} {location : Location}
    (found : files.target path = .ok location) :
    ∃ way name, Path.segments path = way ++ [name] ∧ name ≠ "" ∧ name ≠ "." ∧ name ≠ ".." := by
  obtain ⟨place, placed, named⟩ := exists_of_bind_eq_ok found
  cases place with
  | unnamed => cases named
  | named directory name trailing =>
      cases trailing with
      | true => cases named
      | false =>
          obtain ⟨way, segments, proper⟩ := exists_segments_of_place placed
          exact ⟨way, name, segments, proper⟩

/-- A target is a name in a directory to which the path leads. -/
theorem exists_way_of_target {files : FileSystem} {path : String} {location : Location}
    (found : files.target path = .ok location) :
    ∃ way directory name, Path.segments path = way ++ [name] ∧
      (name ≠ "" ∧ name ≠ "." ∧ name ≠ "..") ∧ checkPath path = .ok () ∧
      files.walk (files.origin path) way = .ok directory ∧
      files.targetIn directory name = .ok location := by
  obtain ⟨way, name, segments, notEmpty, notHere, notUp⟩ := exists_segments_of_target found
  rw [target_of_segments files segments notEmpty notHere notUp] at found
  obtain ⟨_, isPath, found⟩ := exists_of_bind_eq_ok found
  obtain ⟨directory, walked, found⟩ := exists_of_bind_eq_ok found
  exact ⟨way, directory, name, segments, ⟨notEmpty, notHere, notUp⟩, isPath, walked, found⟩

/-- No directory is a target, so writing takes none away. -/
theorem entry?_ne_directory_of_target {files : FileSystem} {path : String} {location : Location}
    (found : files.target path = .ok location) : files.entry? location ≠ some .directory := by
  obtain ⟨way, directory, name, -, -, -, -, inDirectory⟩ := exists_way_of_target found
  obtain ⟨-, -, free, rfl⟩ := targetIn_eq_ok_iff.mp inDirectory
  exact free

/-- What is written at a path stands at its target, and all else is as before. -/
theorem entry?_put_target {files : FileSystem} {path : String} {location : Location}
    (found : files.target path = .ok location) (entry : Entry) (other : Location) :
    entry? (files.put location entry) other =
      if other = location then some entry else files.entry? other :=
  entry?_put files (ne_nil_of_ne_directory (entry?_ne_directory_of_target found)) entry other

/-- Writing a file where files are written keeps what is there. -/
theorem keeps_put_target {files : FileSystem} {path : String} {location : Location}
    (found : files.target path = .ok location) (entry : Entry) :
    files.Keeps (files.put location entry) :=
  keeps_put (entry?_ne_directory_of_target found) entry

/-- A path leads to its target as soon as something stands there. -/
theorem resolve_of_target {files later : FileSystem} {path : String} {location : Location}
    (found : files.target path = .ok location) (keeps : files.Keeps later)
    (stands : (later.entry? location).isSome) : later.resolve path = .ok location := by
  obtain ⟨way, directory, name, segments, ⟨notEmpty, notHere, notUp⟩, isPath, walked,
    inDirectory⟩ := exists_way_of_target found
  obtain ⟨isDirectory, fits, -, rfl⟩ := targetIn_eq_ok_iff.mp inDirectory
  have arrived : later.step directory name = .ok (directory ++ [name]) :=
    (step_eq_ok_iff notEmpty notHere notUp).mpr
      ⟨keeps.directory _ isDirectory, fits, stands, rfl⟩
  rw [resolve, isPath, segments, keeps.origin_eq]
  change later.walk _ _ = _
  rw [walk_append, keeps.walk_eq_ok walked]
  change later.walk _ _ = _
  rw [walk_cons, arrived]
  rfl

/-- A path that leads to a file with a text has this text read. -/
theorem read_of_resolve {files : FileSystem} {path : String} {location : Location} {text : String}
    (resolved : files.resolve path = .ok location)
    (stands : files.entry? location = some (.file (.text text))) :
    files.read path = .ok text := by
  rw [read, resolved]
  simp only [bind, Except.bind, stands]

/-- A text that was written to a path is read from it. -/
theorem read_of_writeContent {files later : FileSystem} {path text : String}
    (written : files.writeContent path (.text text) = .ok later) : later.read path = .ok text := by
  rw [writeContent_eq_map_target] at written
  cases found : files.target path with
  | error fault =>
      rw [found] at written
      cases written
  | ok location =>
      rw [found] at written
      obtain rfl := Except.ok.inj written
      have stands : entry? (files.put location (.file (.text text))) location =
          some (.file (.text text)) := by
        rw [entry?_put_target found, if_pos rfl]
      have resolved := resolve_of_target found (keeps_put_target found (.file (.text text)))
        (by rw [stands]; rfl)
      exact read_of_resolve resolved stands

end ProtocolHeaders.FileSystem

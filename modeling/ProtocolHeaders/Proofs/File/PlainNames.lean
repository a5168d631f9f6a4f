import ProtocolHeaders.Proofs.File.Writing

/-!
# Files of one directory

A plain name names a file of a directory, whatever path the directory is given by. Files of
one directory with different names are different files, and a file written under one name
does not matter to the others: whether and where they can be written stays the same.
-/

namespace ProtocolHeaders

/-- A name as it stands in a directory: it does not stay there, lead up, or lead on. -/
structure IsPlainName (name : String) : Prop where
  notEmpty : name ≠ ""
  notHere : name ≠ "."
  notUp : name ≠ ".."
  noSlash : '/' ∉ name.toList

instance (name : String) : Decidable (IsPlainName name) :=
  decidable_of_iff (name ≠ "" ∧ name ≠ "." ∧ name ≠ ".." ∧ '/' ∉ name.toList)
    ⟨fun ⟨notEmpty, notHere, notUp, noSlash⟩ => ⟨notEmpty, notHere, notUp, noSlash⟩,
      fun ⟨notEmpty, notHere, notUp, noSlash⟩ => ⟨notEmpty, notHere, notUp, noSlash⟩⟩

namespace Path

/-- The names of a path to something in a directory, without its own. -/
def wayInto (directory : String) : List String :=
  if directory.isEmpty then []
  else if directory.toList.getLast? == some '/' then (segments directory).dropLast
  else segments directory

/-- A plain name starts where it is used. -/
theorem isAbsolute_of_isPlainName {name : String} (plain : IsPlainName name) :
    isAbsolute name = false := by
  rw [isAbsolute, beq_eq_false_iff_ne]
  intro starts
  exact plain.noSlash (List.mem_of_mem_head? starts)

/-- A plain name behind a slash is a name of its own. -/
theorem segments_of_toList {path name : String} {before : List Char} (plain : IsPlainName name)
    (parts : path.toList = before ++ '/' :: name.toList) :
    segments path = (Text.splitOn '/' before).map String.ofList ++ [name] := by
  simp [segments, parts, Text.splitOn_append_separator, Text.splitOn_of_notMem plain.noSlash]

/-- A plain name comes behind the way into its directory. -/
theorem segments_join (directory : String) {name : String} (plain : IsPlainName name) :
    segments (join directory name) = wayInto directory ++ [name] := by
  rw [join, isAbsolute_of_isPlainName plain, wayInto]
  by_cases empty : directory.isEmpty = true
  · simp [empty, segments, Text.splitOn_of_notMem plain.noSlash]
  · by_cases ends : (directory.toList.getLast? == some '/') = true
    · obtain ⟨before, parts⟩ := List.getLast?_eq_some_iff.mp (beq_iff_eq.mp ends)
      have joined : (directory ++ name).toList = before ++ '/' :: name.toList := by
        simp [String.toList_append, parts]
      simp only [empty, ends, Bool.or_self, Bool.false_eq_true, if_false, if_true,
        segments_of_toList plain joined]
      simp [segments, parts, Text.splitOn_append_separator]
    · have joined : (directory ++ "/" ++ name).toList = directory.toList ++ '/' :: name.toList := by
        simp [String.toList_append]
      simp only [empty, ends, Bool.or_self, Bool.false_eq_true, if_false,
        segments_of_toList plain joined]
      rfl

/-- Files of different names in one directory have different paths. -/
theorem eq_of_join_eq {directory name other : String} (plain : IsPlainName name)
    (otherPlain : IsPlainName other) (same : join directory name = join directory other) :
    name = other := by
  have sameSegments := congrArg segments same
  rw [segments_join directory plain, segments_join directory otherPlain] at sameSegments
  simpa using sameSegments

/-- What follows does not matter to where a path starts. -/
theorem isAbsolute_append {path : String} (notEmpty : path ≠ "") (more : String) :
    isAbsolute (path ++ more) = isAbsolute path := by
  obtain ⟨first, others, parts⟩ : ∃ first others, path.toList = first :: others :=
    List.exists_cons_of_ne_nil (by simpa using notEmpty)
  rw [isAbsolute, isAbsolute, String.toList_append, parts]
  rfl

/-- A plain name is looked up from where its directory is. -/
theorem isAbsolute_join (directory : String) {name : String} (plain : IsPlainName name) :
    isAbsolute (join directory name) = isAbsolute directory := by
  have relative := isAbsolute_of_isPlainName plain
  rw [join, relative]
  by_cases empty : directory = ""
  · subst empty
    exact relative
  · have nonempty : directory.isEmpty = false := by simpa using empty
    simp only [nonempty, Bool.or_self, Bool.false_eq_true, if_false]
    split
    · exact isAbsolute_append empty name
    · rw [String.append_assoc]
      exact isAbsolute_append empty _

end Path

namespace FileSystem

open File (Fault Content Location)

variable {files : FileSystem} {directory name other : String} {location : Location}

theorem origin_join (files : FileSystem) (directory : String) (plain : IsPlainName name) :
    files.origin (Path.join directory name) = files.origin directory := by
  rw [origin, origin, Path.isAbsolute_join directory plain]

/-- A file of a plain name is written in the directory that the way leads to. -/
theorem target_join (files : FileSystem) (directory : String) (plain : IsPlainName name) :
    files.target (Path.join directory name) = (do
      checkPath (Path.join directory name)
      let inside <- files.walk (files.origin directory) (Path.wayInto directory)
      files.targetIn inside name) := by
  rw [target_of_segments files (Path.segments_join directory plain) plain.notEmpty plain.notHere
    plain.notUp, origin_join files directory plain]

/-- A path with a plain name at its end leads to something of this name in the directory that
the way leads to. -/
theorem exists_eq_append_of_resolve_join (plain : IsPlainName name)
    (resolved : files.resolve (Path.join directory name) = .ok location) :
    ∃ inside, files.walk (files.origin directory) (Path.wayInto directory) = .ok inside ∧
      location = inside ++ [name] := by
  rw [resolve, Path.segments_join directory plain, origin_join files directory plain,
    walk_append] at resolved
  obtain ⟨_, -, walked⟩ := exists_of_bind_eq_ok resolved
  obtain ⟨inside, walkedInto, walkedOn⟩ := exists_of_bind_eq_ok walked
  rw [walk_cons] at walkedOn
  obtain ⟨next, stepped, ended⟩ := exists_of_bind_eq_ok walkedOn
  obtain rfl : next = location := Except.ok.inj ended
  obtain ⟨-, -, -, rfl⟩ := (step_eq_ok_iff plain.notEmpty plain.notHere plain.notUp).mp stepped
  exact ⟨inside, walkedInto, rfl⟩

/-- Two plain names that lead to one location from one directory are the same. -/
theorem eq_of_resolve_join (plain : IsPlainName name) (otherPlain : IsPlainName other)
    (resolved : files.resolve (Path.join directory name) = .ok location)
    (otherResolved : files.resolve (Path.join directory other) = .ok location) :
    name = other := by
  obtain ⟨inside, walked, rfl⟩ := exists_eq_append_of_resolve_join plain resolved
  obtain ⟨otherInside, otherWalked, same⟩ :=
    exists_eq_append_of_resolve_join otherPlain otherResolved
  obtain rfl : inside = otherInside := Except.ok.inj (walked.symm.trans otherWalked)
  simpa using same

/-- A file written in a directory does not matter to what is written under its name or under
another one. -/
theorem targetIn_put {inside : Location} (found : files.targetIn inside name = .ok location)
    (content : Content) (other : String) :
    (files.put location (.file content)).targetIn inside other = files.targetIn inside other := by
  obtain ⟨isDirectory, -, free, rfl⟩ := targetIn_eq_ok_iff.mp found
  have keeps := keeps_put free (.file content)
  have staysDirectory := keeps.directory _ isDirectory
  have stays : entry? (files.put (inside ++ [name]) (.file content)) (inside ++ [other]) =
      some .directory ↔ files.entry? (inside ++ [other]) = some .directory := by
    rw [entry?_put files (by simp)]
    split
    · rename_i same
      rw [same]
      exact iff_of_false nofun free
    · rfl
  simp only [targetIn, isDirectory, staysDirectory, stays]

/-- After a file is written in a directory, all files of this directory are written where they
would have been written before, and fail as they would have failed. -/
theorem target_join_put (plain : IsPlainName name) (otherPlain : IsPlainName other)
    (found : files.target (Path.join directory name) = .ok location) (content : Content) :
    (files.put location (.file content)).target (Path.join directory other) =
      files.target (Path.join directory other) := by
  have keeps := keeps_put_target found (.file content)
  rw [target_join files directory plain] at found
  rw [target_join _ directory otherPlain, target_join files directory otherPlain,
    keeps.origin_eq]
  obtain ⟨_, isPath, found⟩ := exists_of_bind_eq_ok found
  obtain ⟨inside, walked, found⟩ := exists_of_bind_eq_ok found
  rw [walked, keeps.walk_eq_ok walked]
  cases checkPath (Path.join directory other) with
  | error fault => rfl
  | ok _ => exact targetIn_put found content other

end FileSystem

end ProtocolHeaders

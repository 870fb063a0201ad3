import Heartbeat.Storage.Mapping

/-!
# What opening, sizing and mapping come to

One statement for each step on the way from a path to a mapping.  If a step succeeds it has done
what it does where the system grants everything (`makeFile_eq_ok`, `openEmptied_eq_ok`,
`mapBeginning_eq_ok`, `mapResized_eq_ok`), and with the demand granted it does succeed
(`makeFile_of_grants`, `mapBeginning_of_grants`, `mapResized_of_grants`).  A mapping of a file that
is given a length can fail in two ways, before and after the file has that length
(`mapResized_eq_error`).
-/

set_option autoImplicit false

namespace Heartbeat.Storage

variable {storage opened after : Storage} {path : String} {object : ObjectId} {length : Nat}
  {region : Region} {error : FileError}

/-- Only a file that could be opened or made was. -/
theorem makeFile_eq_ok (made : storage.makeFile path = .ok (object, opened)) :
    storage.openOrCreateFile path = .ok (object, opened) := by
  unfold makeFile at made
  split at made
  · cases made
  · exact made

/-- Only what the system allows to be opened or made was. -/
theorem grants_of_makeFile (made : storage.makeFile path = .ok (object, opened)) :
    storage.system.Grants (.making path) := by
  unfold makeFile at made
  split at made
  · cases made
  · next granted => exact System.answer_eq_ok_iff.1 granted

/-- A file is opened or made if the system allows it. -/
theorem makeFile_of_grants (grants : storage.system.Grants (.making path)) :
    storage.makeFile path = storage.openOrCreateFile path := by
  unfold makeFile
  rw [System.answer_of_grants grants]

/-- An emptied file is one that was opened or made, without its bytes. -/
theorem openEmptied_eq_ok (emptied : storage.openEmptied path = (.ok object, after)) :
    ∃ opened, storage.openOrCreateFile path = .ok (object, opened) ∧
      after = opened.modify object (·.resize 0) := by
  unfold openEmptied at emptied
  split at emptied
  · cases emptied
  · next made =>
    cases emptied
    exact ⟨_, makeFile_eq_ok made, rfl⟩

/-- If no file is opened or made, nothing has happened. -/
theorem openEmptied_eq_error (refused : storage.openEmptied path = (.error error, after)) :
    after = storage := by
  unfold openEmptied at refused
  split at refused
  · exact (Prod.mk.inj refused).2.symm
  · cases refused

theorem openEmptied_of_grants (grants : storage.system.Grants (.making path))
    (made : storage.openOrCreateFile path = .ok (object, opened)) :
    storage.openEmptied path = (.ok object, opened.modify object (·.resize 0)) := by
  simp only [openEmptied, makeFile_of_grants grants, made]

/-- What is mapped of a file from its beginning is a mapping of it. -/
theorem mapBeginning_eq_ok (mapped : storage.mapBeginning object length = .ok region) :
    region = .mapping object 0 length := by
  unfold mapBeginning at mapped
  split at mapped
  · cases mapped
  · exact (Except.ok.inj mapped).symm

theorem grants_of_mapBeginning (mapped : storage.mapBeginning object length = .ok region) :
    storage.system.Grants (.mapping object length) := by
  unfold mapBeginning at mapped
  split at mapped
  · cases mapped
  · next granted => exact System.answer_eq_ok_iff.1 granted

theorem mapBeginning_of_grants (grants : storage.system.Grants (.mapping object length)) :
    storage.mapBeginning object length = .ok (.mapping object 0 length) := by
  unfold mapBeginning
  rw [System.answer_of_grants grants]

/-- A file that was given its length and mapped has it. -/
theorem mapResized_eq_ok (mapped : storage.mapResized object length = (.ok region, after)) :
    length ≤ longestFile ∧ region = .mapping object 0 length ∧
      after = storage.modify object (·.resize length) := by
  unfold mapResized at mapped
  split at mapped
  · cases mapped
  next short =>
  split at mapped
  · cases mapped
  · obtain ⟨maps, rfl⟩ := Prod.mk.inj mapped
    exact ⟨Nat.not_lt.1 short, mapBeginning_eq_ok maps, rfl⟩

/-- Only what the system allows to be sized and to be mapped was. -/
theorem grants_of_mapResized (mapped : storage.mapResized object length = (.ok region, after)) :
    storage.system.Grants (.sizing object length) ∧
      storage.system.Grants (.mapping object length) := by
  unfold mapResized at mapped
  split at mapped
  · cases mapped
  split at mapped
  · cases mapped
  next sizes =>
  have maps := grants_of_mapBeginning (Prod.mk.inj mapped).1
  exact ⟨System.answer_eq_ok_iff.1 sizes, maps⟩

/-- A file that was to be given a length and is not mapped is as it was, or it has the length and
the mapping was turned down. -/
theorem mapResized_eq_error (fails : storage.mapResized object length = (.error error, after)) :
    after = storage ∨
      length ≤ longestFile ∧ ¬ storage.system.Grants (.mapping object length) ∧
        after = storage.modify object (·.resize length) := by
  unfold mapResized at fails
  split at fails
  · cases fails
    exact .inl rfl
  next short =>
  split at fails
  · cases fails
    exact .inl rfl
  · obtain ⟨unmapped, rfl⟩ := Prod.mk.inj fails
    refine .inr ⟨Nat.not_lt.1 short, fun maps => ?_, rfl⟩
    have mapped : (storage.modify object (·.resize length)).mapBeginning object length = .ok _ :=
      mapBeginning_of_grants maps
    cases mapped.symm.trans unmapped

/-- Whatever comes of it, a file that was to be given a length is as it was, or it has the length.
-/
theorem mapResized_snd (storage : Storage) (object : ObjectId) (length : Nat) :
    (storage.mapResized object length).2 = storage ∨
      (storage.mapResized object length).2 = storage.modify object (·.resize length) := by
  rcases mapped : storage.mapResized object length with ⟨result, after⟩
  cases result with
  | ok region => exact .inr (mapResized_eq_ok mapped).2.2
  | error error => exact (mapResized_eq_error mapped).imp_right fun sized => sized.2.2

/-- A file is given its length and mapped if a file can be that long and the system allows both. -/
theorem mapResized_of_grants (short : length ≤ longestFile)
    (sizes : storage.system.Grants (.sizing object length))
    (maps : storage.system.Grants (.mapping object length)) :
    storage.mapResized object length =
      (.ok (.mapping object 0 length), storage.modify object (·.resize length)) := by
  have mapped : (storage.modify object (·.resize length)).mapBeginning object length =
      .ok (.mapping object 0 length) := mapBeginning_of_grants maps
  unfold mapResized
  rw [if_neg (Nat.not_lt.2 short), System.answer_of_grants sizes]
  simp only [mapped]

/-- No file is given a length that no file can have. -/
theorem mapResized_of_long (long : longestFile < length) :
    storage.mapResized object length = (.error .lengthTooLarge, storage) := if_pos long

/-- A mapping that keeps what a file holds gives the file its length if it is too short. -/
theorem mapKeeping_of_makeFile (positive : length ≠ 0)
    (made : storage.makeFile path = .ok (object, opened)) :
    storage.mapKeeping path length =
      if (opened.content object).size < length then opened.mapResized object length
      else (opened.mapBeginning object length, opened) := by
  simp only [mapKeeping, if_neg positive, made]

/-- If no file is opened or made, nothing is mapped and nothing has happened. -/
theorem mapKeeping_of_makeFile_error (positive : length ≠ 0)
    (unmade : storage.makeFile path = .error error) :
    storage.mapKeeping path length = (.error error, storage) := by
  simp only [mapKeeping, if_neg positive, unmade]

end Heartbeat.Storage

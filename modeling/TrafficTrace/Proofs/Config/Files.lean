import TrafficTrace.Config.Loading
import TrafficTrace.Program.Run
import TrafficTrace.Proofs.Json.RoundTrip
import TrafficTrace.Proofs.Wire.Stability

/-!
# Files are found where they are read and created

A workspace's file is looked for in three ways: upwards from a directory, to read it, and before one
is created. All three go by the same places in a directory, so that what one finds the others find.

A file that is written is read as the configuration that it was written for, whatever that holds.
Fields that are not set are left out, or null in the sections, and both stand for no value.
-/
namespace TrafficTrace

open Document Record

variable {room : Nat}

/-! ### Values and records -/

theorem TagSet.restores : decoder.Restores (room + 1) toJson :=
  fun t => ⟨t.within_toJson, t.decoder_toJson⟩

namespace Config

theorem restores_word64 : word64.Restores room number64 := by
  intro n
  constructor
  · exact Decoder.within_ofNat n.toNat_lt
  · rw [word64, Decoder.nat64, number64, Decoder.nat_ofNat n.toNat_lt]
    exact congrArg Except.ok (UInt64.ofNat_toNat)

theorem restores_word32 : word32.Restores room number32 := by
  intro n
  have small : n.toNat < UInt32.size := n.toNat_lt
  constructor
  · exact Decoder.within_ofNat (Nat.lt_trans small (by decide))
  · rw [word32, Decoder.nat32, number32, Decoder.nat_ofNat small]
    exact congrArg Except.ok (UInt32.ofNat_toNat)

theorem restores_texts : texts.Restores (room + 1) textsJson := Decoder.restores_text.list

theorem RetrySection.restores : record.decode.Restores (room + 1) toJson :=
  Writes.restores (fun s => (((writes_orNull restores_word64 nofun s.minWaitMs).map mk).seq
    (writes_orNull restores_word64 nofun s.maxWaitMs)).seq
    (writes_orNull restores_word32 nofun s.maxAttempts)) (by decide)

theorem CacheSection.restores : record.decode.Restores (room + 1) toJson :=
  Writes.restores (fun s => ((writes_orNull restores_word64 nofun s.freshSecs).map mk).seq
    (writes_orNull restores_word64 nofun s.hardSecs)) (by decide)

theorem BatchSection.restores : record.decode.Restores (room + 1) toJson :=
  Writes.restores (fun s => ((writes_orNull restores_word64 nofun s.maxBatchSize).map mk).seq
    (writes_orNull restores_word64 nofun s.maxBatchAgeMs)) (by decide)

theorem DaemonSection.restores : record.decode.Restores (room + 1) toJson :=
  Writes.restores (fun s => ((((writes_orNull restores_word64 nofun s.pollTimeoutSecs).map mk).seq
    (writes_orNull restores_word64 nofun s.heartbeatIntervalSecs)).seq
    (writes_orNull restores_word64 nofun s.errorBackoffSecs)).seq
    (writes_orNull restores_word64 nofun s.maxErrorBackoffSecs)) (by decide)

@[simp] theorem RetrySection.floats_toJson (s : RetrySection) : s.toJson.floats = [] := by
  simp [toJson, number64, number32]

@[simp] theorem CacheSection.floats_toJson (s : CacheSection) : s.toJson.floats = [] := by
  simp [toJson, number64]

@[simp] theorem BatchSection.floats_toJson (s : BatchSection) : s.toJson.floats = [] := by
  simp [toJson, number64]

@[simp] theorem DaemonSection.floats_toJson (s : DaemonSection) : s.toJson.floats = [] := by
  simp [toJson, number64]

end Config

namespace ConfigFile

open Config Decoder

theorem restores : record.decode.Restores (room + 2) toJson :=
  Writes.restores (fun f =>
    (((((((((((((((((((writes_present restores_text nofun f.domain).map mk).seq
    (writes_present restores_text nofun f.baseUrl)).seq
    (writes_present restores_bool nofun f.allowInsecureHttp)).seq
    (writes_present restores_text nofun f.apiKey)).seq
    (writes_present restores_text nofun f.apiKeyEnvironment)).seq
    (writes_present restores_text nofun f.apiKeyId)).seq
    (writes_present restores_text nofun f.apiKeySecret)).seq
    (writes_present restores_text nofun f.proxy)).seq
    (writes_present restores_bool nofun f.skipTlsVerify)).seq
    (writes_present restores_text nofun f.tlsServerName)).seq
    (writes_present restores_word64 nofun f.requestTimeoutSecs)).seq
    (writes_present RetrySection.restores nofun f.retry)).seq
    (writes_present CacheSection.restores nofun f.cache)).seq
    (writes_present BatchSection.restores nofun f.batch)).seq
    (writes_present DaemonSection.restores nofun f.daemon)).seq
    (writes_present TagSet.restores nofun f.defaultTags)).seq
    (writes_present restores_bool nofun f.includeTrackers)).seq
    (writes_present restores_texts nofun f.hostExclusions)).seq
    (writes_present restores_texts nofun f.pathExclusions)) (by decide)

theorem floats_toJson (f : ConfigFile) : f.toJson.floats = [] := by
  simp [toJson, number64, textsJson]

/-- Every configuration is decoded from the text of its file. -/
theorem decodeText_toIndentedText (f : ConfigFile) :
    Json.decodeText record.decode f.toJson.toIndentedText = .ok f := by
  obtain ⟨within, decoded⟩ : (Node.ofJson f.toJson).Within Json.depthLimit ∧ _ := restores f
  exact Json.decodeText_toIndentedText within f.floats_toJson decoded

end ConfigFile

/-! ### Paths and files -/

theorem FilePath.ancestors_concat (p : FilePath) (name : String) :
    ancestors (p ++ [name]) = (p ++ [name]) :: ancestors p := by
  have below : ∀ n ∈ (List.range (p.length + 1)).reverse, (p ++ [name]).take n = p.take n := by
    intro n hn
    rw [List.mem_reverse, List.mem_range] at hn
    exact List.take_append_of_le_length (by omega)
  have whole : (p ++ [name]).take (p.length + 1) = p ++ [name] :=
    List.take_of_length_le (by simp)
  rw [ancestors, ancestors, List.length_append, List.length_singleton, List.range_succ,
    List.reverse_concat, List.map_cons, List.map_congr_left below, whole]

/-- What is around a path, and the path itself, are its beginnings. -/
theorem FilePath.mem_ancestors_iff {p e : FilePath} : e ∈ p.ancestors ↔ e <+: p := by
  induction p using List.reverseRecOn with
  | nil => exact List.mem_singleton.trans List.prefix_nil.symm
  | append_singleton p name ih =>
    rw [ancestors_concat, List.mem_cons, ih, List.prefix_concat_iff]

namespace FileTree

variable {t u : FileTree} {p : FilePath}

theorem readText_of_get? {s : String} (there : t.get? p = some (.file s.toUTF8)) :
    t.readText p = .ok s := by
  have text : String.fromUTF8? s.toUTF8 = some s := dif_pos s.isValidUTF8
  rw [readText, read, there]
  simp only [bind, Except.bind, text]
  rfl

/-- A file can be written into a directory unless a directory has its name. -/
theorem exists_write (content : ByteArray) (directory : t.get? p.dropLast = some .directory)
    (free : t.get? p ≠ some .directory) : ∃ u, t.write p content = .ok u := by
  rw [write]
  split
  · exact absurd ‹_› free
  · exact ⟨_, rfl⟩
  all_goals simp_all

end FileTree

namespace Config

variable {t u : FileTree} {d p place : FilePath} {f : ConfigFile}

/-! ### The places in a directory -/

/-- The directory has a workspace's file. -/
def HasFile (t : FileTree) (d : FilePath) : Prop :=
  ∃ place ∈ workspacePlaces, t.contains (d ++ place) = true

instance : Decidable (HasFile t d) := inferInstanceAs (Decidable (∃ place ∈ workspacePlaces, _))

/-- The first place in the order of the search at which the directory has something. -/
def IsFirst (t : FileTree) (d place : FilePath) : Prop :=
  ∃ before after, workspacePlaces = before ++ place :: after ∧ t.contains (d ++ place) = true ∧
    ∀ p ∈ before, t.contains (d ++ p) = false

theorem workspaceFile?_eq_some_iff :
    workspaceFile? t d = some p ↔ ∃ place, IsFirst t d place ∧ d ++ place = p := by
  rw [workspaceFile?, List.find?_map, Option.map_eq_some_iff]
  apply exists_congr
  intro place
  apply and_congr_left'
  rw [List.find?_eq_some_iff_append]
  constructor
  · rintro ⟨here, before, after, order, earlier⟩
    exact ⟨before, after, order, here, fun p hp => by simpa using earlier p hp⟩
  · rintro ⟨before, after, order, here, earlier⟩
    exact ⟨here, before, after, order, fun p hp => by simpa using earlier p hp⟩

theorem workspaceFile?_eq_none_iff : workspaceFile? t d = none ↔ ¬ HasFile t d := by
  simp [workspaceFile?, HasFile]

theorem exists_isFirst (h : HasFile t d) : ∃ place, IsFirst t d place := by
  cases found : workspaceFile? t d with
  | none => exact absurd h (workspaceFile?_eq_none_iff.mp found)
  | some p =>
    obtain ⟨place, first, -⟩ := workspaceFile?_eq_some_iff.mp found
    exact ⟨place, first⟩

theorem workspaceFile?_of_isFirst (h : IsFirst t d place) : workspaceFile? t d = some (d ++ place) :=
  workspaceFile?_eq_some_iff.mpr ⟨place, h, rfl⟩

/-! ### Upwards -/

/-- The nearest of the directories around a path, and of the path itself, that has a file. -/
structure IsNearest (t : FileTree) (start d : FilePath) : Prop where
  around : d <+: start
  holds : HasFile t d
  nearest : ∀ e, e <+: start → HasFile t e → e <+: d

theorem findWorkspace?_concat (t : FileTree) (p : FilePath) (name : String) :
    findWorkspace? t (p ++ [name]) =
      if (workspaceFile? t (p ++ [name])).isSome then some (p ++ [name]) else findWorkspace? t p := by
  rw [findWorkspace?, FilePath.ancestors_concat, List.find?_cons]
  split <;> simp_all [findWorkspace?]

theorem isNearest_iff_of_hasFile {start : FilePath} (h : HasFile t start) :
    IsNearest t start d ↔ d = start := by
  constructor
  · intro found
    have below := found.nearest start (List.prefix_refl start) h
    exact found.around.eq_of_length_le below.length_le
  · rintro rfl
    exact ⟨List.prefix_refl d, h, fun _ around _ => around⟩

theorem isNearest_concat_iff {name : String} (h : ¬ HasFile t (p ++ [name])) :
    IsNearest t (p ++ [name]) d ↔ IsNearest t p d := by
  have above {e : FilePath} (held : HasFile t e) : e <+: p ++ [name] ↔ e <+: p := by
    rw [List.prefix_concat_iff, or_iff_right]
    rintro rfl
    exact h held
  constructor
  · rintro ⟨around, holds, nearest⟩
    exact ⟨(above holds).mp around, holds, fun e he held => nearest e ((above held).mpr he) held⟩
  · rintro ⟨around, holds, nearest⟩
    exact ⟨(above holds).mpr around, holds, fun e he held => nearest e ((above held).mp he) held⟩

theorem isSome_workspaceFile?_iff : (workspaceFile? t d).isSome = true ↔ HasFile t d := by
  rw [Option.isSome_iff_ne_none, ne_eq, workspaceFile?_eq_none_iff, not_not]

/-- The search ends at the nearest directory that has a file. By induction on the path: either its
last directory has a file, or the search goes on above. -/
theorem findWorkspace?_eq_some_iff {start : FilePath} :
    findWorkspace? t start = some d ↔ IsNearest t start d := by
  induction start using List.reverseRecOn with
  | nil =>
    have top : findWorkspace? t [] = if (workspaceFile? t []).isSome then some [] else none :=
      List.find?_singleton
    by_cases held : HasFile t []
    · rw [top, if_pos (isSome_workspaceFile?_iff.mpr held), isNearest_iff_of_hasFile held,
        Option.some_inj, eq_comm]
    · rw [top, if_neg (mt isSome_workspaceFile?_iff.mp held)]
      constructor
      · nofun
      · rintro ⟨around, holds, -⟩
        exact absurd (List.prefix_nil.mp around ▸ holds) held
  | append_singleton p name ih =>
    rw [findWorkspace?_concat]
    by_cases held : HasFile t (p ++ [name])
    · rw [if_pos (isSome_workspaceFile?_iff.mpr held), isNearest_iff_of_hasFile held,
        Option.some_inj, eq_comm]
    · rw [if_neg (mt isSome_workspaceFile?_iff.mp held), ih, isNearest_concat_iff held]

theorem findWorkspace?_eq_none_iff {start : FilePath} :
    findWorkspace? t start = none ↔ ∀ e, e <+: start → ¬ HasFile t e := by
  rw [findWorkspace?, List.find?_eq_none]
  apply forall_congr'
  intro e
  rw [FilePath.mem_ancestors_iff, isSome_workspaceFile?_iff]

/-! ### Reading and writing -/

theorem load_of_get? (there : t.get? (d ++ [".tracehound.json"]) =
    some (.file f.toJson.toIndentedText.toUTF8)) : load t (d ++ [".tracehound.json"]) = .ok f := by
  have json : isYaml ".tracehound.json" = false := by decide +kernel
  rw [load, FileTree.readText_of_get? there]
  simp only [List.getLast?_concat, Option.getD_some, parse, json]
  simp [Except.mapError, bind, Except.bind, f.decodeText_toIndentedText]

theorem loadWorkspace_of_isFirst (h : IsFirst t d place) :
    loadWorkspace t d = (load t (d ++ place)).map some := by
  rw [loadWorkspace, workspaceFile?_of_isFirst h]

theorem loadWorkspace_eq_none_iff : loadWorkspace t d = .ok none ↔ ¬ HasFile t d := by
  constructor
  · intro h held
    obtain ⟨place, first⟩ := exists_isFirst held
    rw [loadWorkspace_of_isFirst first] at h
    cases read : load t (d ++ place) <;> rw [read] at h <;> cases h
  · intro h
    rw [loadWorkspace, workspaceFile?_eq_none_iff.mpr h]

theorem save_eq_ok_iff : save t d place f = .ok (u, p) ↔
    t.write (d ++ place) f.toJson.toIndentedText.toUTF8 = .ok u ∧ p = d ++ place := by
  rw [save]
  cases written : t.write (d ++ place) f.toJson.toIndentedText.toUTF8 with
  | error e => simp [Except.mapError, bind, Except.bind]
  | ok v => simp [Except.mapError, bind, Except.bind, pure, Except.pure, eq_comm]

/-- What was saved is read from the place at which it was saved. -/
theorem load_of_save (saved : save t d [".tracehound.json"] f = .ok (u, p)) : load u p = .ok f := by
  obtain ⟨written, rfl⟩ := save_eq_ok_iff.mp saved
  apply load_of_get?
  rw [FileTree.get?_write written, if_pos rfl]

theorem exists_save (f : ConfigFile) (directory : t.get? d = some .directory)
    (free : t.get? (d ++ [".tracehound.json"]) ≠ some .directory) :
    ∃ u, save t d [".tracehound.json"] f = .ok (u, d ++ [".tracehound.json"]) := by
  have around : t.get? (d ++ [".tracehound.json"]).dropLast = some .directory := by
    rwa [List.dropLast_concat]
  obtain ⟨u, written⟩ :=
    FileTree.exists_write f.toJson.toIndentedText.toUTF8 around free
  exact ⟨u, save_eq_ok_iff.mpr ⟨written, rfl⟩⟩

/-! ### Creating -/

theorem create_of_isFirst (h : IsFirst t d place) :
    create t d =
      .error (.invalidValue "config" (t.display (d ++ place) ++ " already exists")) := by
  rw [create, workspaceFile?_of_isFirst h]

theorem create_of_not_hasFile (h : ¬ HasFile t d) :
    create t d = save t d [".tracehound.json"] .starter := by
  rw [create, workspaceFile?_eq_none_iff.mpr h]

theorem isFirst_of_save (saved : save t d [".tracehound.json"] f = .ok (u, p)) :
    IsFirst u d [".tracehound.json"] := by
  obtain ⟨written, rfl⟩ := save_eq_ok_iff.mp saved
  refine ⟨[], _, rfl, ?_, nofun⟩
  rw [FileTree.contains, FileTree.get?_write written, if_pos rfl]
  rfl

/-- One tree comes from another by the creation of a directory's file: there was none, nothing else has
changed, the starter is read, and no second file is created. -/
structure IsCreation (t u : FileTree) (d : FilePath) : Prop where
  fresh : t.get? (d ++ [".tracehound.json"]) = none
  others : ∀ q, q ≠ d ++ [".tracehound.json"] → u.get? q = t.get? q
  read : loadWorkspace u d = .ok (some .starter)
  again : ∃ e, create u d = .error e

theorem exists_creation (directory : t.get? d = some .directory) (h : ¬ HasFile t d) :
    ∃ u, create t d = .ok (u, d ++ [".tracehound.json"]) ∧ IsCreation t u d := by
  have fresh : t.get? (d ++ [".tracehound.json"]) = none := by
    apply Option.not_isSome_iff_eq_none.mp
    exact fun there => h ⟨_, List.mem_cons_self, there⟩
  have free : t.get? (d ++ [".tracehound.json"]) ≠ some .directory := by
    rw [fresh]
    nofun
  obtain ⟨u, saved⟩ := exists_save .starter directory free
  have first := isFirst_of_save saved
  have loaded := load_of_save saved
  obtain ⟨written, -⟩ := save_eq_ok_iff.mp saved
  refine ⟨u, (create_of_not_hasFile h).trans saved, fresh, ?_, ?_, ⟨_, create_of_isFirst first⟩⟩
  · intro q other
    rw [FileTree.get?_write written, if_neg other]
  · rw [loadWorkspace_of_isFirst first, loaded]
    rfl

theorem create_eq_error_iff (directory : t.get? d = some .directory) :
    (∃ e, create t d = .error e) ↔ loadWorkspace t d ≠ .ok none := by
  rw [ne_eq, loadWorkspace_eq_none_iff, not_not]
  constructor
  · rintro ⟨e, failed⟩
    by_contra h
    obtain ⟨u, created, -⟩ := exists_creation directory h
    rw [created] at failed
    cases failed
  · intro h
    obtain ⟨place, first⟩ := exists_isFirst h
    exact ⟨_, create_of_isFirst first⟩

/-- The program leaves its files as they are when it fails to create one. -/
theorem files_createSettings {w : Surroundings} {e : ConfigError}
    (failed : create w.files w.directory = .error e) :
    (Program.createSettings w).files = w.files := by
  rw [Program.createSettings, failed]
  rfl

/-- The search, the reading and the creation of a workspace's file agree in every tree. What is saved
under the standard name, where that can be written, is read as it was. The search finds the nearest
directory with a file, and the first file there is the one that is read. A file is created unless one
would be read; then nothing else changes, the starter is read, and no second one is created. -/
theorem files_agree :
    (∀ (t : FileTree) (d : FilePath) (f : ConfigFile), t.get? d = some .directory →
      t.get? (d ++ [".tracehound.json"]) ≠ some .directory →
        ∃ u, save t d [".tracehound.json"] f = .ok (u, d ++ [".tracehound.json"])) ∧
    (∀ (t u : FileTree) (d p : FilePath) (f : ConfigFile),
      save t d [".tracehound.json"] f = .ok (u, p) → load u p = .ok f) ∧
    (∀ (t : FileTree) (start : FilePath),
      (∀ d, findWorkspace? t start = some d ↔ IsNearest t start d) ∧
      (findWorkspace? t start = none ↔ ∀ e, e <+: start → ¬ HasFile t e) ∧
      ∀ d, findWorkspace? t start = some d →
        loadWorkspace t d ≠ .ok none ∧
          ∃ place, IsFirst t d place ∧ loadWorkspace t d = (load t (d ++ place)).map some) ∧
    (∀ (t : FileTree) (d : FilePath), t.get? d = some .directory →
      ((∃ e, create t d = .error e) ↔ loadWorkspace t d ≠ .ok none) ∧
      (loadWorkspace t d = .ok none →
        ∃ u, create t d = .ok (u, d ++ [".tracehound.json"]) ∧ IsCreation t u d)) ∧
    ∀ (w : Surroundings) (e : ConfigError), create w.files w.directory = .error e →
      (Program.createSettings w).files = w.files := by
  refine ⟨fun _ _ f => exists_save f, fun _ _ _ _ _ => load_of_save, ?_, ?_,
    fun _ _ => files_createSettings⟩
  · intro t start
    refine ⟨fun _ => findWorkspace?_eq_some_iff, findWorkspace?_eq_none_iff, ?_⟩
    intro d found
    have holds := (findWorkspace?_eq_some_iff.mp found).holds
    obtain ⟨place, first⟩ := exists_isFirst holds
    refine ⟨?_, place, first, loadWorkspace_of_isFirst first⟩
    rw [ne_eq, loadWorkspace_eq_none_iff, not_not]
    exact holds
  · intro t d directory
    refine ⟨create_eq_error_iff directory, ?_⟩
    intro nothing
    exact exists_creation directory (loadWorkspace_eq_none_iff.mp nothing)

/-- A directory with two files, around one without any. The search from the inner one finds the outer
one, where the file in YAML comes first, and only in the inner one a file is created. -/
theorem files_agree_nested :
    let content := "x".toUTF8
    let t : FileTree := ⟨"top", ((((Assoc.empty.put ["a"] .directory).put ["a", "b"] .directory).put
      ["a", ".tracehound.yaml"] (.file content)).put ["a", ".tracehound.yml"] (.file content))⟩
    findWorkspace? t ["a", "b"] = some ["a"] ∧ IsFirst t ["a"] [".tracehound.yaml"] ∧
      loadWorkspace t ["a"] ≠ .ok none ∧ (∃ e, create t ["a"] = .error e) ∧
      ∃ u, create t ["a", "b"] = .ok (u, ["a", "b", ".tracehound.json"]) ∧
        IsCreation t u ["a", "b"] := by
  intro content t
  have without : ¬ HasFile t (["a"] ++ ["b"]) := by decide +kernel
  have first : IsFirst t ["a"] [".tracehound.yaml"] :=
    ⟨[[".tracehound.json"]], _, rfl, by decide +kernel, by decide +kernel⟩
  have holds : HasFile t ["a"] := by decide +kernel
  have nearest : IsNearest t (["a"] ++ ["b"]) ["a"] :=
    (isNearest_concat_iff without).mpr ((isNearest_iff_of_hasFile holds).mpr rfl)
  obtain ⟨-, -, search, creation, -⟩ := files_agree
  obtain ⟨found, -, reading⟩ := search t ["a", "b"]
  have here := (found ["a"]).mpr nearest
  obtain ⟨read, -⟩ := reading ["a"] here
  obtain ⟨refused, -⟩ := creation t ["a"] rfl
  obtain ⟨-, created⟩ := creation t ["a", "b"] rfl
  refine ⟨here, first, read, refused.mpr read, created ?_⟩
  exact loadWorkspace_eq_none_iff.mpr without

end Config

end TrafficTrace

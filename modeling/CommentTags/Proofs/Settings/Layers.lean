import CommentTags.Proofs.Json.Keys
import CommentTags.Proofs.Report.Text
import CommentTags.Text.Uppercase

namespace CommentTags

theorem Setting.key_injective : Function.Injective Setting.key := by
  intro a b h
  have hb := Setting.ofKey?_key b
  rw [← h, Setting.ofKey?_key] at hb
  exact Option.some.inj hb

theorem Setting.key_of_ofKey? {key : Text} {setting : Setting}
    (h : Setting.ofKey? key = some setting) : setting.key = key := by
  simpa using List.find?_some h

theorem Setting.variableName_eq (setting : Setting) :
    setting.variableName = "ISSUE_SUMMONER_SCAN_".toList ++ setting.key.upper := by
  cases setting <;> decide +kernel

namespace Settings

def document? (disk : Disk) (path : Text) (room : ℕ) : Option Json :=
  match disk.readBytes path with
  | .error _ => none
  | .ok bytes =>
    match Utf8.strict bytes with
    | .error _ => none
    | .ok text => (Json.parse text.unifyLineEnds room).toOption

def stated? (document : Json) (key : Text) : Option Json :=
  (document.member? "scan".toList).bind (·.member? key)

/-- The value of a key: of its variable if that is set, else the text in the settings file, else the
default. -/
def layered (disk : Disk) (env : Environment) (root : Text) (room : ℕ) (key default : Text) :
    Text :=
  match env.lookup ("ISSUE_SUMMONER_SCAN_".toList ++ key.upper) with
  | some value => value
  | none =>
    match (document? disk (path root) room).bind (stated? · key) with
    | some (.text value) => value
    | _ => default

def json (s : Settings) : Json :=
  .object [("scan".toList,
    .object (Setting.all.map (fun setting => (setting.key, .text (s.get setting)))))]

def rejection (key : Text) : Record :=
  note .warning ("Ignoring unknown or mistyped config key scan.".toList ++ key)

theorem eq_of_get {a b : Settings} (h : ∀ setting, a.get setting = b.get setting) : a = b := by
  obtain ⟨_, _, _⟩ := a
  obtain ⟨_, _, _⟩ := b
  have hmarker := h .marker
  have hignoreFile := h .ignoreFile
  have hencoding := h .encoding
  simp only [get] at hmarker hignoreFile hencoding
  rw [hmarker, hignoreFile, hencoding]

theorem get_override (env : Environment) (s : Settings) (setting : Setting) :
    (s.override env).get setting = (env.lookup setting.variableName).getD (s.get setting) := by
  have hfold : ∀ (settings : List Setting) (s : Settings), settings.Nodup →
      (settings.foldl (fun s setting =>
        match env.lookup setting.variableName with
        | some value => s.set setting value
        | none => s) s).get setting =
          if setting ∈ settings then (env.lookup setting.variableName).getD (s.get setting)
          else s.get setting := by
    intro settings
    induction settings with
    | nil => simp
    | cons first settings ih =>
      intro s hnodup
      obtain ⟨hfirst, hnodup⟩ := List.nodup_cons.mp hnodup
      rw [List.foldl_cons, ih _ hnodup]
      by_cases he : setting = first
      · subst he
        cases hvalue : env.lookup setting.variableName <;> simp [hfirst, get_set]
      · cases hvalue : env.lookup first.variableName <;> simp [he, get_set]
  have hmem : setting ∈ Setting.all := by cases setting <;> decide
  have hnodup : Setting.all.Nodup := by decide
  exact (hfold Setting.all s hnodup).trans (if_pos hmem)

theorem merge_cons_of_text {key value : Text} {setting : Setting}
    (h : Setting.ofKey? key = some setting) (s : Settings) (rest : List (Text × Json)) :
    s.merge ((key, .text value) :: rest) = (s.set setting value).merge rest := by
  simp only [merge, h]

theorem merge_cons_of_rejected {key : Text} {value : Json}
    (h : ¬ ∃ (setting : Setting) (text : Text), key = setting.key ∧ value = .text text)
    (s : Settings) (rest : List (Text × Json)) :
    s.merge ((key, value) :: rest) = (rejection key :: (s.merge rest).1, (s.merge rest).2) := by
  rw [merge]
  · rfl
  · intro setting v hkey hv
    exact h ⟨setting, v, (Setting.key_of_ofKey? hkey).symm, hv⟩

theorem get_merge {members : List (Text × Json)} (hkeys : (members.map Prod.fst).Nodup)
    (s : Settings) (setting : Setting) :
    (s.merge members).2.get setting =
      match members.lookup setting.key with
      | some (.text value) => value
      | _ => s.get setting := by
  induction members generalizing s with
  | nil => rfl
  | cons m members ih =>
    obtain ⟨key, value⟩ := m
    rw [List.map_cons, List.nodup_cons] at hkeys
    obtain ⟨hnew, hkeys⟩ := hkeys
    have hnone : members.lookup key = none := by
      rw [List.lookup_eq_none_iff]
      intro m hm
      simpa using fun he : key = m.1 => hnew (List.mem_map.mpr ⟨m, hm, he.symm⟩)
    by_cases haccepted : ∃ (other : Setting) (text : Text), key = other.key ∧ value = .text text
    · obtain ⟨other, text, rfl, rfl⟩ := haccepted
      rw [merge_cons_of_text (Setting.ofKey?_key other), ih hkeys, List.lookup_cons]
      by_cases he : setting = other
      · subst he
        simp [hnone, get_set]
      · have hne : (setting.key == other.key) = false :=
          beq_eq_false_iff_ne.mpr fun h => he (Setting.key_injective h)
        simp [hne, get_set, he]
    · rw [merge_cons_of_rejected haccepted, ih hkeys, List.lookup_cons]
      by_cases he : setting.key = key
      · subst he
        rw [hnone]
        cases value with
        | text text => exact absurd ⟨setting, text, rfl, rfl⟩ haccepted
        | _ => simp
      · rw [beq_eq_false_iff_ne.mpr he]

theorem exists_rejected_of_merge {members : List (Text × Json)}
    (hkeys : (members.map Prod.fst).Nodup) (s : Settings) :
    ∃ rejected : List Text, rejected.Nodup ∧ (s.merge members).1 = rejected.map rejection ∧
      ∀ key, key ∈ rejected ↔ ∃ value, (key, value) ∈ members ∧
        ¬ ∃ (setting : Setting) (text : Text), key = setting.key ∧ value = .text text := by
  induction members generalizing s with
  | nil => exact ⟨[], List.nodup_nil, rfl, by simp⟩
  | cons m members ih =>
    obtain ⟨key, value⟩ := m
    rw [List.map_cons, List.nodup_cons] at hkeys
    obtain ⟨hnew, hkeys⟩ := hkeys
    by_cases haccepted : ∃ (setting : Setting) (text : Text), key = setting.key ∧ value = .text text
    · obtain ⟨setting, text, rfl, rfl⟩ := haccepted
      rw [merge_cons_of_text (Setting.ofKey?_key setting)]
      obtain ⟨rejected, hnodup, hjournal, hmem⟩ := ih hkeys (s.set setting text)
      refine ⟨rejected, hnodup, hjournal, fun key => (hmem key).trans ?_⟩
      refine exists_congr fun value => and_congr_left fun hrejected => ?_
      rw [List.mem_cons, or_iff_right]
      rintro ⟨⟩
      exact hrejected ⟨setting, text, rfl, rfl⟩
    · rw [merge_cons_of_rejected haccepted]
      obtain ⟨rejected, hnodup, hjournal, hmem⟩ := ih hkeys s
      refine ⟨key :: rejected, List.nodup_cons.mpr ⟨fun h => ?_, hnodup⟩, ?_, fun other => ?_⟩
      · obtain ⟨value, hvalue, -⟩ := (hmem key).mp h
        exact hnew (List.mem_map.mpr ⟨_, hvalue, rfl⟩)
      · rw [List.map_cons, hjournal]
      · rw [List.mem_cons, hmem other]
        constructor
        · rintro (rfl | ⟨v, hv, hrejected⟩)
          · exact ⟨value, List.mem_cons_self, haccepted⟩
          · exact ⟨v, List.mem_cons_of_mem _ hv, hrejected⟩
        · rintro ⟨v, hv, hrejected⟩
          rcases List.mem_cons.mp hv with he | hv
          · exact .inl (Prod.mk.inj he).1
          · exact .inr ⟨v, hv, hrejected⟩

theorem scanSection_lookup (document : Json) (key : Text) :
    (scanSection document).lookup key = stated? document key := by
  unfold scanSection stated?
  split
  · rename_i members hmembers
    rw [hmembers]
    rfl
  · rename_i hobject
    cases hsection : document.member? "scan".toList with
    | none => rfl
    | some value =>
      cases value with
      | object members => exact absurd hsection (hobject members)
      | _ => rfl

theorem nodup_keys_scanSection {document : Json} (h : document.Distinct) :
    ((scanSection document).map Prod.fst).Nodup := by
  unfold scanSection
  split
  · rename_i members hmembers
    cases document with
    | object outer =>
      cases h with
      | object _ hvalues =>
        have hsection := hvalues _ (Text.mem_of_lookup hmembers)
        cases hsection with
        | object hkeys _ => exact hkeys
    | _ => cases hmembers
  · exact List.nodup_nil

theorem document?_of_readDocument {disk : Disk} {path : Text} {room : ℕ}
    {result : Except FileProblem (Option Json)} (h : readDocument disk path room = .ok result) :
    document? disk path room = result.toOption.join := by
  unfold readDocument at h
  unfold document?
  cases hread : disk.readBytes path with
  | error failure =>
    rw [hread] at h
    dsimp only at h ⊢
    split at h
    · obtain rfl := Except.ok.inj h
      rfl
    · obtain rfl := Except.ok.inj h
      rfl
    · obtain rfl := Except.ok.inj h
      rfl
  | ok bytes =>
    rw [Disk.pathExists_of_readBytes hread, hread] at h
    dsimp only at h ⊢
    cases htext : Utf8.strict bytes with
    | error e =>
      rw [htext] at h
      cases h
    | ok text =>
      rw [htext] at h
      dsimp only at h ⊢
      cases hparse : Json.parse text.unifyLineEnds room with
      | ok document =>
        rw [hparse] at h
        obtain rfl := Except.ok.inj h
        rfl
      | error fault =>
        rw [hparse] at h
        cases fault with
        | malformed problem left =>
          obtain rfl := Except.ok.inj h
          rfl
        | hugeInteger digits => cases h
        | tooDeep container => cases h

theorem distinct_of_document? {disk : Disk} {path : Text} {room : ℕ} {document : Json}
    (h : document? disk path room = some document) : document.Distinct := by
  unfold document? at h
  split at h
  · cases h
  · split at h
    · cases h
    · rename_i text htext
      cases hparse : Json.parse text.unifyLineEnds room with
      | error fault =>
        rw [hparse] at h
        cases h
      | ok parsed =>
        rw [hparse] at h
        obtain rfl := Option.some.inj h
        exact Json.distinct_of_parse hparse

section Load

variable {disk : Disk} {env : Environment} {root : Text} {room : ℕ} {journal : Journal}
  {settings : Settings}

theorem exists_merged_of_load (h : load disk env root room = (journal, .ok settings)) :
    ∃ merged : Settings, settings = merged.override env ∧
      match document? disk (path root) room with
      | some document => standard.merge (scanSection document) = (journal, merged)
      | none => merged = standard := by
  unfold load at h
  dsimp only at h
  cases hread : readDocument disk (path root) room with
  | error flaw =>
    rw [hread] at h
    cases (Prod.mk.inj h).2
  | ok result =>
    rw [document?_of_readDocument hread]
    rw [hread] at h
    cases result with
    | error problem =>
      obtain ⟨-, hsettings⟩ := Prod.mk.inj h
      exact ⟨standard, (Except.ok.inj hsettings).symm, rfl⟩
    | ok document =>
      cases document with
      | none =>
        obtain ⟨-, hsettings⟩ := Prod.mk.inj h
        exact ⟨standard, (Except.ok.inj hsettings).symm, rfl⟩
      | some document =>
        obtain ⟨hjournal, hsettings⟩ := Prod.mk.inj h
        exact ⟨_, (Except.ok.inj hsettings).symm, by rw [← hjournal]; rfl⟩

theorem get_of_load (h : load disk env root room = (journal, .ok settings)) (setting : Setting) :
    settings.get setting = layered disk env root room setting.key (standard.get setting) := by
  obtain ⟨merged, rfl, hmerged⟩ := exists_merged_of_load h
  have hget : merged.get setting =
      match (document? disk (path root) room).bind (stated? · setting.key) with
      | some (.text value) => value
      | _ => standard.get setting := by
    cases hdocument : document? disk (path root) room with
    | none =>
      rw [hdocument] at hmerged
      rw [hmerged]
      rfl
    | some document =>
      rw [hdocument] at hmerged
      have hkeys := nodup_keys_scanSection (distinct_of_document? hdocument)
      have hmerge := get_merge hkeys standard setting
      rw [hmerged, scanSection_lookup] at hmerge
      exact hmerge
  rw [get_override, hget, Setting.variableName_eq, layered]
  cases env.lookup ("ISSUE_SUMMONER_SCAN_".toList ++ setting.key.upper) <;> rfl

theorem exists_rejected_of_load (h : load disk env root room = (journal, .ok settings))
    {document : Json} (hdocument : document? disk (path root) room = some document) :
    ∃ rejected : List Text, rejected.Nodup ∧ journal = rejected.map rejection ∧
      ∀ key, key ∈ rejected ↔ ∃ value, stated? document key = some value ∧
        ¬ ∃ (setting : Setting) (text : Text), key = setting.key ∧ value = .text text := by
  obtain ⟨merged, -, hmerged⟩ := exists_merged_of_load h
  rw [hdocument] at hmerged
  have hkeys := nodup_keys_scanSection (distinct_of_document? hdocument)
  obtain ⟨rejected, hnodup, hjournal, hmem⟩ := exists_rejected_of_merge hkeys standard
  rw [hmerged] at hjournal
  refine ⟨rejected, hnodup, hjournal, fun key => (hmem key).trans ?_⟩
  refine exists_congr fun value => and_congr_left fun _ => ?_
  rw [← scanSection_lookup]
  exact ⟨Text.lookup_of_mem hkeys, Text.mem_of_lookup⟩

/-- Whenever the settings can be loaded, they are one section with three texts. Each of these comes
from its variable, else from the file if that is a document whose section has a text for it, the
last one if members repeat, else from the default, whatever else there is. Every member of the
section that is not taken is told once. Without file and variables these are the defaults. -/
theorem load_layers (h : load disk env root room = (journal, .ok settings)) :
    settings.json = .object [("scan".toList, .object
      [("annotation".toList,
          .text (layered disk env root room "annotation".toList "@TODO".toList)),
        ("ignore_file".toList,
          .text (layered disk env root room "ignore_file".toList ".gitignore".toList)),
        ("encoding".toList,
          .text (layered disk env root room "encoding".toList "utf-8".toList))])] ∧
      (∀ fuel depth s rest members,
        Json.readMembers fuel depth s = .ok (members, rest) →
          ∃ v, Json.readValue (fuel + 1) (depth + 1) ('{' :: s) = .ok (v, rest) ∧
            ∀ key, v.member? key = members.reverse.lookup key) ∧
      (∀ document, document? disk (path root) room = some document →
        ∃ rejected : List Text, rejected.Nodup ∧ journal = rejected.map rejection ∧
          ∀ key, key ∈ rejected ↔ ∃ value, stated? document key = some value ∧
            ¬ ∃ (setting : Setting) (text : Text), key = setting.key ∧ value = .text text) ∧
      ((∀ setting : Setting, env.lookup setting.variableName = none) →
        document? disk (path root) room = none → settings = standard) := by
  refine ⟨?_, ?_, fun document hdocument => exists_rejected_of_load h hdocument, ?_⟩
  · simp only [json, Setting.all, List.map_cons, List.map_nil, get_of_load h]
    rfl
  · exact fun fuel depth s rest members hmembers => Json.member?_of_readMembers hmembers
  · intro henv hnone
    apply eq_of_get
    intro setting
    rw [get_of_load h, layered, ← Setting.variableName_eq, henv, hnone]
    rfl

end Load

def configuredDisk : Disk where
  root := .dir [("p".toList, .dir [(ownDir, .dir [(fileName, .file (Utf8.encode
    ("\x7b\"paths\": \x7b\"annotation\": \"no\"\x7d, \"scan\": \x7b\"annotation\": 1, " ++
      "\"colour\": \"red\", \"annotation\": \"@FIXME\", \"encoding\": [], " ++
      "\"ignore_file\": \"a\"\x7d\x7d").toList))])])]
  cwd := ["p".toList]

def configuredEnvironment : Environment := [("ISSUE_SUMMONER_SCAN_IGNORE_FILE".toList, [])]

theorem load_layers_configured :
    load configuredDisk configuredEnvironment ['.'] =
        (["colour", "encoding"].map (rejection ∘ String.toList),
          .ok ⟨"@FIXME".toList, [], "utf-8".toList⟩) ∧
      json ⟨"@FIXME".toList, [], "utf-8".toList⟩ = .object [("scan".toList, .object
        [("annotation".toList,
            .text (layered configuredDisk configuredEnvironment ['.'] Json.usualRoom
              "annotation".toList "@TODO".toList)),
          ("ignore_file".toList,
            .text (layered configuredDisk configuredEnvironment ['.'] Json.usualRoom
              "ignore_file".toList ".gitignore".toList)),
          ("encoding".toList,
            .text (layered configuredDisk configuredEnvironment ['.'] Json.usualRoom
              "encoding".toList "utf-8".toList))])] := by
  have h : load configuredDisk configuredEnvironment ['.'] =
      (["colour", "encoding"].map (rejection ∘ String.toList),
        .ok ⟨"@FIXME".toList, [], "utf-8".toList⟩) := by decide +kernel
  exact ⟨h, (load_layers h).1⟩

end Settings

end CommentTags

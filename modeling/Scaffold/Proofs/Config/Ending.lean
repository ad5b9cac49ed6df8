import Scaffold.Proofs.Config.Carried
import Scaffold.Proofs.Config.Load
import Scaffold.Proofs.Decimal.Nearest
import Scaffold.Proofs.Generation.Run
import Scaffold.Proofs.Orchestration.Steps

/-!
# How reading settings ends

Settings that are read from a value are sound (`Generation.Sound`), or the value is refused for a
fault of the configuration. Only numbers get past this: one that is too long to be written where a
text is read, or one beyond all doubles (`Oversized`). A run takes the usual settings for refused
ones, and ends at such a number (`Bench.settings_ends`).
-/

namespace Scaffold.Config
open Scaffold.Workspace

/-- Settings that planning and generation can work with. -/
structure Generation.Sound (g : Generation) : Prop where
  limit : 1 ≤ g.existingLimit
  kinds : g.kinds ≠ []
  nodup : g.kinds.Nodup

/-- The failure is a fault of the configuration. -/
def IsFault (f : Failure) : Prop := ∃ fault, f = .config fault

/-- The configuration is refused. -/
def Refused {α : Type} (r : Except Failure α) : Prop := Fails IsFault r

/-- A failure that is no refusal of the configuration. -/
def Escapes {α : Type} (r : Except Failure α) : Prop := Fails (¬ IsFault ·) r

/-- A whole number with too many digits to be written. -/
def TooLong (v : Yaml.Value) : Prop :=
  ∃ n : Int, v = .int n ∧ Decimal.tenTo Decimal.digitLimit ≤ n.natAbs

/-- A whole number beyond all doubles. -/
def TooLarge (v : Yaml.Value) : Prop :=
  ∃ n : Int, v = .int n ∧ Decimal.twoTo 1024 - Decimal.twoTo 970 ≤ n.natAbs

/-- A list with such an item. -/
def Lists (p : Yaml.Value → Prop) (v : Yaml.Value) : Prop :=
  ∃ items, v = .list items ∧ ∃ item ∈ items, p item

/-- One of the keys has such a value. -/
def Under (keys : List String) (p : Yaml.Value → Prop) (entries : List (Yaml.Value × Yaml.Value)) :
    Prop :=
  ∃ key ∈ keys, ∃ v, Yaml.Value.field? key entries = some v ∧ p v

/-- The entries under a key. -/
def entriesUnder (key : String) (entries : List (Yaml.Value × Yaml.Value)) :
    List (Yaml.Value × Yaml.Value) :=
  entriesOf (Yaml.Value.field? key entries)

/-- The kinds are refused: there are none, or one is unknown. -/
def KindsRefused (entries : List (Yaml.Value × Yaml.Value)) : Prop :=
  Under ["kinds"] (fun v => Refused (kindsOf v)) (entriesUnder "generation" entries)

/-- A number is too large for its use. What is read after the kinds does not count when these are
refused. -/
inductive Oversized (entries : List (Yaml.Value × Yaml.Value)) : Prop
  | text (h : Under ["model", "base_url", "api_key"] TooLong (entriesUnder "llm" entries))
  | number (h : Under ["temperature", "request_timeout"] TooLarge (entriesUnder "llm" entries))
  | kind (h : Under ["kinds"] (Lists TooLong) (entriesUnder "generation" entries))
  | exclude (hkinds : ¬ KindsRefused entries)
    (h : Under ["exclude"] (Lists TooLong) (entriesUnder "generation" entries))
  | store (hkinds : ¬ KindsRefused entries)
    (h : Under ["store"] TooLong (entriesUnder "templates" entries))

section

variable {α β : Type} {r : Except Failure α} {k : α → Except Failure β} {p : Yaml.Value → Prop}
  {q : Prop} {v : Yaml.Value} {entries : List (Yaml.Value × Yaml.Value)} {key : String}

/-! ### Failures along a sequence of steps -/

theorem exists_ok_iff : (∃ a, r = .ok a) ↔ ¬ Escapes r ∧ ¬ Refused r := by
  cases r with
  | ok a => simp [Escapes, Refused]
  | error f => simp [Escapes, Refused]

theorem escapes_bind_iff (hk : ∀ a, Escapes (k a) ↔ q) :
    Escapes (r >>= k) ↔ Escapes r ∨ ¬ Refused r ∧ q := by
  refine (fails_bind_iff hk).trans ?_
  rw [exists_ok_iff]
  exact ⟨fun h => h.imp_right fun h => ⟨h.1.2, h.2⟩,
    fun h => or_iff_not_imp_left.2 fun hr => ⟨⟨hr, (h.resolve_left hr).1⟩, (h.resolve_left hr).2⟩⟩

/-- A step that is not refused, before another one. -/
theorem escapes_bind_iff_of_not (hr : ¬ Refused r) (hk : ∀ a, Escapes (k a) ↔ q) :
    Escapes (r >>= k) ↔ Escapes r ∨ q := by
  rw [escapes_bind_iff hk, and_iff_right hr]

theorem not_refused_of (h : FailsOnly (¬ IsFault ·) r) : ¬ Refused r := by
  rintro ⟨f, hf, hfault⟩
  exact h f hf hfault

theorem not_escapes_ok (a : α) : ¬ Escapes (.ok a : Except Failure α) := not_fails_ok a

/-! ### Values -/

theorem textOf?_eq_error_iff {f : Failure} :
    textOf? v = .error f ↔ TooLong v ∧ f = .tooManyDigits := by
  cases v with
  | int n =>
    have hlong : TooLong (.int n) ↔ Decimal.tooLongToWrite n = true := by
      simp [TooLong, Decimal.tooLongToWrite]
    rw [textOf?, hlong]
    split
    · next h => simp [h, eq_comm]
    · next h => simp [h]
  | _ => simp [textOf?, TooLong]

theorem doubleOf?_eq_error_iff {f : Failure} :
    doubleOf? v = .error f ↔ TooLarge v ∧ f = .overflow := by
  cases v with
  | int n =>
    have hlarge : TooLarge (.int n) ↔ Decimal.ofInt? n = none := by
      simp [TooLarge, Decimal.ofInt?_eq_none_iff]
    rw [doubleOf?, hlarge]
    split
    · next h => simp [h]
    · next h => simp [h, eq_comm]
  | _ => simp [doubleOf?, TooLarge]

theorem escapes_textOf?_iff : Escapes (textOf? v) ↔ TooLong v := by
  simp [Escapes, Fails, textOf?_eq_error_iff, IsFault, Failure.tooManyDigits]

theorem escapes_doubleOf?_iff : Escapes (doubleOf? v) ↔ TooLarge v := by
  simp [Escapes, Fails, doubleOf?_eq_error_iff, IsFault]

theorem textOf?_failsBeyond (v : Yaml.Value) : FailsOnly (¬ IsFault ·) (textOf? v) := by
  intro f hf
  simp [(textOf?_eq_error_iff.1 hf).2, IsFault, Failure.tooManyDigits]

theorem doubleOf?_failsBeyond (v : Yaml.Value) : FailsOnly (¬ IsFault ·) (doubleOf? v) := by
  intro f hf
  simp [(doubleOf?_eq_error_iff.1 hf).2, IsFault]

theorem textsOf_failsBeyond (v : Yaml.Value) : FailsOnly (¬ IsFault ·) (textsOf v) := by
  unfold textsOf
  split
  · exact failsOnly_ok _
  · exact failsOnly_ok _
  · exact (FailsOnly.mapM textOf?_failsBeyond _).bind fun _ => failsOnly_ok _
  · exact failsOnly_ok _

theorem escapes_textsOf_iff : Escapes (textsOf v) ↔ Lists TooLong v := by
  cases v with
  | list items =>
    have hitems : Escapes (items.mapM textOf?) ↔ ∃ item ∈ items, TooLong item :=
      (fails_mapM_iff textOf?_failsBeyond).trans
        (exists_congr fun item => and_congr_right fun _ => escapes_textOf?_iff)
    have hnext : ∀ texts : List (Option String),
        Escapes (.ok (texts.filterMap id) : Except Failure (List String)) ↔ False :=
      fun _ => iff_of_false (not_escapes_ok _) id
    refine (escapes_bind_iff hnext).trans ?_
    simp [hitems, Lists]
  | _ => exact iff_of_false (not_escapes_ok _) (by simp [Lists])

theorem escapes_kindsOf_iff : Escapes (kindsOf v) ↔ Lists TooLong v := by
  have hnext : ∀ words, Escapes ((kindsOfWords words).mapError .config) ↔ False := by
    intro words
    refine iff_of_false ?_ id
    cases kindsOfWords words with
    | ok kinds => exact not_escapes_ok kinds
    | error fault =>
      rintro ⟨f, hf, hfault⟩
      cases hf
      exact hfault ⟨fault, rfl⟩
  refine (escapes_bind_iff hnext).trans ?_
  rw [and_false, or_false, escapes_textsOf_iff]

/-! ### Sections -/

theorem under_cons_iff {next : String} {keys : List String} :
    Under (key :: next :: keys) p entries ↔
      Under [key] p entries ∨ Under (next :: keys) p entries := by
  simp [Under, or_and_right, exists_or]

theorem fails_said_iff {f : Failure → Prop} {read : Yaml.Value → Except Failure (Option α)}
    (h : ∀ v, Fails f (read v) ↔ p v) :
    Fails f (said read entries key) ↔ Under [key] p entries := by
  unfold said
  split
  · next v hv => simp [Under, hv, h]
  · next hv => simp [Under, hv]

theorem said_failsBeyond {read : Yaml.Value → Except Failure (Option α)}
    (h : ∀ v, FailsOnly (¬ IsFault ·) (read v)) :
    FailsOnly (¬ IsFault ·) (said read entries key) := by
  unfold said
  split
  · exact h _
  · exact failsOnly_ok none

theorem said_ok {read : Yaml.Value → Option α} :
    said (fun v => .ok (read v)) entries key =
      .ok ((Yaml.Value.field? key entries).bind read) := by
  unfold said
  cases Yaml.Value.field? key entries <;> rfl

theorem llmOf_failsBeyond : FailsOnly (¬ IsFault ·) (llmOf entries) :=
  (said_failsBeyond textOf?_failsBeyond).bind fun _ =>
  (said_failsBeyond textOf?_failsBeyond).bind fun _ =>
  (said_failsBeyond textOf?_failsBeyond).bind fun _ =>
  (said_failsBeyond doubleOf?_failsBeyond).bind fun _ =>
  (said_failsBeyond fun _ => failsOnly_ok _).bind fun _ =>
  (said_failsBeyond doubleOf?_failsBeyond).bind fun _ => failsOnly_ok _

theorem escapes_llmOf_iff :
    Escapes (llmOf entries) ↔
      Under ["model", "base_url", "api_key"] TooLong entries ∨
        Under ["temperature", "request_timeout"] TooLarge entries := by
  have htext : ∀ key, Escapes (said textOf? entries key) ↔ Under [key] TooLong entries :=
    fun _ => fails_said_iff fun _ => escapes_textOf?_iff
  have hnumber : ∀ key, Escapes (said doubleOf? entries key) ↔ Under [key] TooLarge entries :=
    fun _ => fails_said_iff fun _ => escapes_doubleOf?_iff
  have hno : ∀ key, ¬ Refused (said textOf? entries key) :=
    fun _ => not_refused_of (said_failsBeyond textOf?_failsBeyond)
  have hno' : ∀ key, ¬ Refused (said doubleOf? entries key) :=
    fun _ => not_refused_of (said_failsBeyond doubleOf?_failsBeyond)
  refine (escapes_bind_iff_of_not (hno _) fun _ => escapes_bind_iff_of_not (hno _) fun _ =>
    escapes_bind_iff_of_not (hno _) fun _ => escapes_bind_iff_of_not (hno' _) fun _ =>
    escapes_bind_iff_of_not (not_refused_of (said_failsBeyond fun _ => failsOnly_ok _)) fun _ =>
    escapes_bind_iff_of_not (hno' _) fun _ => iff_of_false (not_escapes_ok _) id).trans ?_
  rw [htext, htext, htext, hnumber, hnumber, under_cons_iff, under_cons_iff, under_cons_iff,
    said_ok, or_iff_right (not_escapes_ok _), or_false, or_assoc, or_assoc]

/-- The truth values and numbers of a section are read without failure. -/
theorem generationOf_eq :
    generationOf entries = do
      let kinds ← said (fun v => some <$> kindsOf v) entries "kinds"
      let exclude ← said (fun v => some <$> textsOf v) entries "exclude"
      return {
        overwrite := ((Yaml.Value.field? "overwrite" entries).bind truthOf?).getD false
        existingLimit :=
          ((Yaml.Value.field? "existing_path_limit" entries).bind limitOf?).getD defaultLimit
        kinds := kinds.getD [.directory, .file]
        exclude := exclude.getD defaultExcludes } := by
  simp only [generationOf, said_ok]
  rfl

theorem not_refused_exclude :
    ¬ Refused (said (fun v => some <$> textsOf v) entries "exclude") :=
  not_refused_of (said_failsBeyond fun v => (textsOf_failsBeyond v).map)

theorem refused_kinds_iff :
    Refused (said (fun v => some <$> kindsOf v) entries "kinds") ↔
      Under ["kinds"] (fun v => Refused (kindsOf v)) entries :=
  fails_said_iff fun _ => fails_map_iff

theorem refused_generationOf_iff :
    Refused (generationOf entries) ↔ Under ["kinds"] (fun v => Refused (kindsOf v)) entries := by
  rw [generationOf_eq]
  refine (fails_bind_iff fun _ => (fails_bind_iff fun _ => iff_of_false (not_fails_ok _) id).trans
    (or_iff_left fun h => h.2)).trans ?_
  exact (or_iff_left fun h => not_refused_exclude h.2).trans refused_kinds_iff

theorem escapes_generationOf_iff :
    Escapes (generationOf entries) ↔
      Under ["kinds"] (Lists TooLong) entries ∨
        ¬ Under ["kinds"] (fun v => Refused (kindsOf v)) entries ∧
          Under ["exclude"] (Lists TooLong) entries := by
  have hkinds : Escapes (said (fun v => some <$> kindsOf v) entries "kinds") ↔
      Under ["kinds"] (Lists TooLong) entries :=
    fails_said_iff fun _ => fails_map_iff.trans escapes_kindsOf_iff
  have hexclude : Escapes (said (fun v => some <$> textsOf v) entries "exclude") ↔
      Under ["exclude"] (Lists TooLong) entries :=
    fails_said_iff fun _ => fails_map_iff.trans escapes_textsOf_iff
  rw [generationOf_eq]
  refine (escapes_bind_iff fun _ => escapes_bind_iff_of_not not_refused_exclude fun _ =>
    iff_of_false (not_escapes_ok _) id).trans ?_
  rw [hkinds, refused_kinds_iff, hexclude, or_false]

theorem escapes_storeOf_iff {root : Location} :
    Escapes (storeOf root entries) ↔ Under ["store"] TooLong entries := by
  have htext : Escapes (said textOf? entries "store") ↔ Under ["store"] TooLong entries :=
    fails_said_iff fun _ => escapes_textOf?_iff
  refine (escapes_bind_iff fun named => iff_of_false ?_ id).trans ?_
  · cases named with
    | none => exact not_escapes_ok none
    | some s => exact not_escapes_ok _
  · rw [and_false, or_false, htext]

theorem kindsOf_sound {kinds : List Plan.Kind} (h : kindsOf v = .ok kinds) :
    kinds ≠ [] ∧ kinds.Nodup := by
  obtain ⟨words, -, h⟩ := bind_eq_ok h
  cases words with
  | nil => cases h
  | cons word words =>
    cases hwords : kindsOfWords (word :: words) with
    | error fault =>
      rw [hwords] at h
      cases h
    | ok named =>
      rw [hwords] at h
      cases h
      obtain ⟨all, hall, hnamed⟩ := bind_eq_ok hwords
      cases hnamed
      cases mapM_eq_ok_iff.1 hall with
      | @cons _ kind _ kinds _ _ =>
        refine ⟨?_, nodup_eraseDups _⟩
        rw [List.eraseDups_cons]
        exact List.cons_ne_nil _ _

theorem said_kinds_sound {kinds : List Plan.Kind}
    (h : said (fun v => some <$> kindsOf v) entries key = .ok (some kinds)) :
    kinds ≠ [] ∧ kinds.Nodup := by
  unfold said at h
  split at h
  · next v _ =>
    cases hv : kindsOf v with
    | error f =>
      simp only [hv] at h
      cases h
    | ok named =>
      simp only [hv] at h
      cases h
      exact kindsOf_sound hv
  · cases h

theorem limit_pos (said : Option Yaml.Value) : 1 ≤ (said.bind limitOf?).getD defaultLimit := by
  cases hlimit : said.bind limitOf? with
  | none => decide
  | some n =>
    obtain ⟨v, -, hv⟩ := Option.bind_eq_some_iff.1 hlimit
    exact of_decide_eq_true (Option.filter_eq_some_iff.1 hv).2

theorem sound_default : Generation.Sound {} :=
  ⟨by decide, by decide, by decide⟩

theorem generationOf_sound {g : Generation} (h : generationOf entries = .ok g) : g.Sound := by
  rw [generationOf_eq] at h
  obtain ⟨kinds, hkinds, h⟩ := bind_eq_ok h
  obtain ⟨exclude, -, h⟩ := bind_eq_ok h
  cases h
  cases kinds with
  | none => exact ⟨limit_pos _, sound_default.kinds, sound_default.nodup⟩
  | some kinds => exact ⟨limit_pos _, (said_kinds_sound hkinds).1, (said_kinds_sound hkinds).2⟩

/-! ### Settings -/

theorem ofValue_map (root : Location) : ofValue root (.map entries) = ofEntries root entries := by
  cases entries <;> rfl

theorem escapes_ofEntries_iff {root : Location} :
    Escapes (ofEntries root entries) ↔ Oversized entries := by
  have hrefused : Refused (generationOf (entriesUnder "generation" entries)) ↔
      KindsRefused entries := refused_generationOf_iff
  have hsections : Escapes (ofEntries root entries) ↔
      Escapes (llmOf (entriesUnder "llm" entries)) ∨
        Escapes (generationOf (entriesUnder "generation" entries)) ∨
          ¬ KindsRefused entries ∧ Escapes (storeOf root (entriesUnder "templates" entries)) := by
    refine (escapes_bind_iff_of_not (not_refused_of llmOf_failsBeyond) fun _ =>
      escapes_bind_iff fun _ =>
        escapes_bind_iff fun _ => iff_of_false (not_escapes_ok _) id).trans ?_
    rw [and_false, or_false, ← hrefused]
    rfl
  rw [hsections, escapes_llmOf_iff, escapes_generationOf_iff, escapes_storeOf_iff]
  constructor
  · rintro ((h | h) | (h | ⟨hno, h⟩) | ⟨hno, h⟩)
    · exact .text h
    · exact .number h
    · exact .kind h
    · exact .exclude hno h
    · exact .store hno h
  · rintro (h | h | h | ⟨hno, h⟩ | ⟨hno, h⟩)
    · exact Or.inl (Or.inl h)
    · exact Or.inl (Or.inr h)
    · exact Or.inr (Or.inl (Or.inl h))
    · exact Or.inr (Or.inl (Or.inr ⟨hno, h⟩))
    · exact Or.inr (Or.inr ⟨hno, h⟩)

theorem ofEntries_sound {root : Location} {settings : Settings}
    (h : ofEntries root entries = .ok settings) :
    settings.root = root ∧ settings.generation.Sound := by
  obtain ⟨llm, -, h⟩ := bind_eq_ok h
  obtain ⟨generation, hgeneration, h⟩ := bind_eq_ok h
  obtain ⟨store, -, h⟩ := bind_eq_ok h
  cases h
  exact ⟨rfl, generationOf_sound hgeneration⟩

theorem ofValue_sound {root : Location} {settings : Settings}
    (h : ofValue root v = .ok settings) : settings.root = root ∧ settings.generation.Sound := by
  unfold ofValue at h
  split at h
  · cases h
    exact ⟨rfl, sound_default⟩
  · split at h
    · exact ofEntries_sound h
    · cases h

theorem escapes_ofValue_iff {root : Location} :
    Escapes (ofValue root v) ↔ ∃ entries, v = .map entries ∧ Oversized entries := by
  cases v with
  | map entries => rw [ofValue_map, escapes_ofEntries_iff]; simp
  | _ =>
    refine iff_of_false ?_ (by simp)
    unfold ofValue
    split
    · exact not_escapes_ok _
    · exact fun h => fails_error.1 h ⟨_, rfl⟩

/-- Numbers that no fault of the configuration tells of: a temperature beyond all doubles, and a key
with too many digits. -/
theorem large_numbers_escape :
    Escapes (ofValue (.top ["w"])
        (.map [(.text "llm", .map [(.text "temperature", .int (10 ^ 400))])])) ∧
      Escapes (ofValue (.top ["w"])
        (.map [(.text "llm", .map [(.text "api_key", .int (10 ^ 4300))])])) := by
  constructor
  · exact escapes_ofValue_iff.2 ⟨_, rfl, .number ⟨"temperature", by simp, .int (10 ^ 400), rfl,
      10 ^ 400, rfl, by decide +kernel⟩⟩
  · exact escapes_ofValue_iff.2 ⟨_, rfl, .text ⟨"api_key", by simp, .int (10 ^ 4300), rfl,
      10 ^ 4300, rfl, by decide +kernel⟩⟩

/-- The file of settings for a location is there, and its text says a value. -/
inductive Reads (loader : Loader) (cwd : Here) (l : Location) (top : Node) (root : Location)
    (v : Yaml.Value) : Prop
  | of {file node text} (hfile : settingsLocation cwd l top = .ok file)
    (hroot : top.resolve file.parent.names = .ok root)
    (hthere : statIfThere cwd file top = .ok (some node)) (htext : readText cwd file top = .ok text)
    (hv : readValue loader file.name text = .ok v)

theorem Reads.load_eq {loader : Loader} {cwd : Here} {l : Location} {top : Node} {root : Location}
    (h : Reads loader cwd l top root v) : load loader cwd l top = ofValue root v := by
  obtain ⟨hfile, hroot, hthere, htext, hv⟩ := h
  simp only [load, hfile, hroot, hthere, htext, hv, bind, Except.bind]

end

end Scaffold.Config

namespace Scaffold.Orchestration
open Scaffold.Workspace Scaffold.Config Scaffold.Provider

section

variable {ρ : Type} [Log.Journal ρ] {b : Bench ρ} {l : Location} {w w' : Floor ρ}
  {settings : Config.Settings}

theorem readSettings_apply (b : Bench ρ) (l : Location) (w : Floor ρ) :
    b.readSettings l w =
      match load b.loader b.here l w.files with
      | .ok settings => (.ok settings, w)
      | .error (.config fault) =>
        (report .warning s!"Ignoring invalid configuration: {fault.message}" >>= fun _ =>
          (pure { root := l } : Task ρ Config.Settings)) w
      | .error f => (.error f, w) := by
  have hget : (get : Task ρ _) w = (.ok w, w) := rfl
  unfold Bench.readSettings
  rw [bind_of_ok hget]
  cases load b.loader b.here l w.files with
  | ok settings => rfl
  | error f => cases f <;> rfl

/-- Telling of settings changes their reading only. -/
theorem settings_of_readSettings (h : b.readSettings l w = (.ok settings, w')) :
    ∃ reading w'', b.settings l w = (.ok (settings.readAt reading), w'') := by
  unfold Bench.settings
  rw [bind_of_ok h]
  exact ⟨_, _, rfl⟩

theorem settings_of_ok (h : load b.loader b.here l w.files = .ok settings) :
    ∃ reading w', b.settings l w = (.ok (settings.readAt reading), w') := by
  have hread : b.readSettings l w = (.ok settings, w) := by rw [readSettings_apply, h]
  exact settings_of_readSettings hread

/-- For a refused configuration a run takes the usual settings. -/
theorem settings_of_refused (h : Refused (load b.loader b.here l w.files)) :
    ∃ w', b.settings l w = (.ok { root := l }, w') := by
  obtain ⟨f, hf, fault, rfl⟩ := h
  obtain ⟨r, hr⟩ := gives_report (ρ := ρ) .warning
    s!"Ignoring invalid configuration: {fault.message}" w
  have hread : b.readSettings l w = (.ok { root := l }, ⟨w.files, r⟩) := by
    rw [readSettings_apply, hf]
    exact bind_of_ok hr
  obtain ⟨reading, w', hw'⟩ := settings_of_readSettings hread
  exact ⟨w', hw'⟩

/-- Another failure ends the run. -/
theorem settings_of_escapes {f : Failure} (h : load b.loader b.here l w.files = .error f)
    (hf : ¬ IsFault f) : b.settings l w = (.error f, w) := by
  refine bind_of_error ?_
  rw [readSettings_apply, h]
  cases f with
  | config fault => exact absurd ⟨fault, rfl⟩ hf
  | _ => rfl

end

/-- Settings that are read from a file are sound, or refused for a fault of the configuration, and
then a run takes the usual ones; but a number that is too large for its use ends the run. -/
theorem settings_ends {ρ : Type} [Log.Journal ρ] (b : Bench ρ) (w : Floor ρ) {l root : Location}
    {v : Yaml.Value} (h : Reads b.loader b.here l w.files root v) :
    (∀ settings, load b.loader b.here l w.files = .ok settings →
        settings.root = root ∧ settings.generation.Sound) ∧
      (∀ f, load b.loader b.here l w.files = .error f → Refuses f) ∧
      (Escapes (load b.loader b.here l w.files) ↔ ∃ entries, v = .map entries ∧ Oversized entries) ∧
      (Refused (load b.loader b.here l w.files) → ∃ w', b.settings l w = (.ok { root := l }, w')) ∧
      ((∃ settings w', b.settings l w = (.ok settings, w') ∧ settings.generation.Sound) ↔
        ¬ ∃ entries, v = .map entries ∧ Oversized entries) ∧
      ∀ f w', b.settings l w = (.error f, w') → f = .tooManyDigits ∨ f = .overflow := by
  have hload := h.load_eq
  have hsound : ∀ settings, load b.loader b.here l w.files = .ok settings →
      settings.root = root ∧ settings.generation.Sound := by
    intro settings hok
    rw [hload] at hok
    exact ofValue_sound hok
  have hrefuses : ∀ f, load b.loader b.here l w.files = .error f → Refuses f := by
    rw [hload]
    exact ofValue_failsOnly v root
  have hescapes : Escapes (load b.loader b.here l w.files) ↔
      ∃ entries, v = .map entries ∧ Oversized entries := by
    rw [hload]
    exact escapes_ofValue_iff
  refine ⟨hsound, hrefuses, hescapes, settings_of_refused, ?_, ?_⟩
  · rw [← hescapes]
    constructor
    · rintro ⟨settings, w', hsettings, -⟩ ⟨f, hf, hfault⟩
      rw [settings_of_escapes hf hfault] at hsettings
      cases hsettings
    · intro hno
      by_cases hrefused : Refused (load b.loader b.here l w.files)
      · obtain ⟨w', hw'⟩ := settings_of_refused hrefused
        exact ⟨_, w', hw', sound_default⟩
      · obtain ⟨settings, hok⟩ := exists_ok_iff.2 ⟨hno, hrefused⟩
        obtain ⟨reading, w', hw'⟩ := settings_of_ok hok
        exact ⟨_, w', hw', (hsound settings hok).2⟩
  · intro f w' hf
    cases hl : load b.loader b.here l w.files with
    | ok settings =>
      obtain ⟨reading, w'', hw''⟩ := settings_of_ok hl
      rw [hw''] at hf
      cases hf
    | error g =>
      by_cases hfault : IsFault g
      · obtain ⟨w'', hw''⟩ := settings_of_refused ⟨g, hl, hfault⟩
        rw [hw''] at hf
        cases hf
      · rw [settings_of_escapes hl hfault] at hf
        cases hf
        cases hrefuses f hl with
        | fault fault => exact absurd ⟨fault, rfl⟩ hfault
        | digits => exact Or.inl rfl
        | overflow => exact Or.inr rfl

/-- Kinds that are named twice are one. -/
theorem settings_ends_kinds :
    let text := "generation:\n  kinds: [file, files]\n"
    let b : Bench (List Log.Record) :=
      ⟨.top [], Yaml.load, .local, none, fun _ => .error (.provider .noKey), none⟩
    let w : Floor (List Log.Record) := ⟨settingsTree text, .empty, []⟩
    ∃ v, Reads b.loader b.here (.top ["w"]) w.files (.top ["w"]) v ∧
      ∀ settings, load b.loader b.here (.top ["w"]) w.files = .ok settings →
        settings.root = .top ["w"] ∧ settings.generation.Sound := by
  intro text b w
  have hreads : (readValue Yaml.load fileName text).toOption.isSome = true := by decide +kernel
  cases hv : readValue Yaml.load fileName text with
  | error f =>
    rw [hv] at hreads
    cases hreads
  | ok v =>
    have hplain : '\r' ∉ text.toList := by decide
    obtain ⟨hlocation, hroot, hthere, hread⟩ := found_settingsTree hplain
    have h : Reads b.loader b.here (.top ["w"]) w.files (.top ["w"]) v :=
      ⟨hlocation, hroot, hthere, hread, hv⟩
    exact ⟨v, h, (settings_ends b w h).1⟩

end Scaffold.Orchestration

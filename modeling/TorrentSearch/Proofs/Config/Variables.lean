import Mathlib
import TorrentSearch.Config.Load
import TorrentSearch.Proofs.Config.Overlay

/-!
# Variables over a document

A variable of the environment names one setting and takes the place of what the document says about it.
Every other setting, also those of the same section and of the sections in it, is read as if the variable
was not there.
-/

namespace TorrentSearch.Config

open Toml (Value Entries)
open Toml.Value (at? IsTable Silent Tidy overlay laidOver)

inductive Setting where
  | cacheMaxBytes
  | cacheMaxAgeSecs
  | cachePersistPath
  | gracePeriodMs
  | retries
  | timeoutSecs
  | ytsEnabled
  | ytsBaseUrl
  | ibitEnabled
  | ibitBaseUrl
  | ibitPageDelayMs
deriving DecidableEq

namespace Setting

def path : Setting → List String
  | cacheMaxBytes => ["cache", "max_bytes"]
  | cacheMaxAgeSecs => ["cache", "max_age_secs"]
  | cachePersistPath => ["cache", "persist_path"]
  | gracePeriodMs => ["aggregator", "grace_period_ms"]
  | retries => ["aggregator", "retries"]
  | timeoutSecs => ["sources", "timeout_secs"]
  | ytsEnabled => ["sources", "yts", "enabled"]
  | ytsBaseUrl => ["sources", "yts", "base_url"]
  | ibitEnabled => ["sources", "ibit", "enabled"]
  | ibitBaseUrl => ["sources", "ibit", "base_url"]
  | ibitPageDelayMs => ["sources", "ibit", "page_delay_ms"]

def Kind : Setting → Type
  | ytsEnabled | ibitEnabled => Bool
  | ytsBaseUrl | ibitBaseUrl => String
  | cachePersistPath => Option String
  | _ => Nat

def read? : (s : Setting) → Value → Option s.Kind
  | cacheMaxBytes | cacheMaxAgeSecs | gracePeriodMs | timeoutSecs | ibitPageDelayMs => natural? maxWord64
  | retries => natural? maxWord32
  | ytsEnabled | ibitEnabled => boolean?
  | ytsBaseUrl | ibitBaseUrl => text?
  | cachePersistPath => fun v => (text? v).map some

/-- The name of a variable is the path to the setting: its parts between double underscores, in letters of
any case. -/
def IsNamedBy (s : Setting) (name : String) : Prop :=
  name.toList.map Char.toLower = variablePrefix ++ ("__".intercalate s.path).toList

end Setting

def get (c : Config) : (s : Setting) → s.Kind
  | .cacheMaxBytes => c.cache.maxBytes
  | .cacheMaxAgeSecs => c.cache.maxAgeSecs
  | .cachePersistPath => c.cache.persistPath
  | .gracePeriodMs => c.federation.gracePeriodMs
  | .retries => c.federation.retries
  | .timeoutSecs => c.sources.timeoutSecs
  | .ytsEnabled => c.sources.yts.enabled
  | .ytsBaseUrl => c.sources.yts.baseUrl
  | .ibitEnabled => c.sources.ibit.enabled
  | .ibitBaseUrl => c.sources.ibit.baseUrl
  | .ibitPageDelayMs => c.sources.ibit.pageDelayMs

def ofSettings (f : (s : Setting) → s.Kind) : Config where
  cache := ⟨f .cacheMaxBytes, f .cacheMaxAgeSecs, f .cachePersistPath⟩
  federation := ⟨f .gracePeriodMs, f .retries⟩
  sources := ⟨f .timeoutSecs, ⟨f .ytsEnabled, f .ytsBaseUrl⟩,
    ⟨f .ibitEnabled, f .ibitBaseUrl, f .ibitPageDelayMs⟩⟩

@[simp]
theorem get_ofSettings (f : (s : Setting) → s.Kind) (s : Setting) : (ofSettings f).get s = f s := by
  cases s <;> rfl

def sectionPaths : List (List String) :=
  [["cache"], ["aggregator"], ["sources"], ["sources", "yts"], ["sources", "ibit"]]

def SectionsAreTables (v : Value) : Prop :=
  ∀ p ∈ sectionPaths, ∀ w, at? p v = some w → w.IsTable

/-- What is read for a setting: what the value is at its path, and its default if there is none. -/
def Setting.readAt? (s : Setting) (v : Value) : Option s.Kind :=
  orDefault (get {} s) s.read? (at? s.path v)

@[simp]
theorem orDefault_none {α : Type} (a : α) (read? : Value → Option α) : orDefault a read? none = some a :=
  rfl

@[simp]
theorem orDefault_some {α : Type} (a : α) (read? : Value → Option α) (v : Value) :
    orDefault a read? (some v) = read? v :=
  rfl

theorem exists_eq_some_iff₂ {α β : Type} {x : Option α} {y : Option β} {a : α} {b : β} :
    (∃ a', x = some a' ∧ ∃ b', y = some b' ∧ a' = a ∧ b' = b) ↔ x = some a ∧ y = some b := by
  constructor
  · rintro ⟨_, hx, _, hy, rfl, rfl⟩
    exact ⟨hx, hy⟩
  · rintro ⟨hx, hy⟩
    exact ⟨_, hx, _, hy, rfl, rfl⟩

theorem exists_eq_some_iff₃ {α β γ : Type} {x : Option α} {y : Option β} {z : Option γ} {a : α} {b : β}
    {d : γ} :
    (∃ a', x = some a' ∧ ∃ b', y = some b' ∧ ∃ d', z = some d' ∧ a' = a ∧ b' = b ∧ d' = d) ↔
      x = some a ∧ y = some b ∧ z = some d := by
  constructor
  · rintro ⟨_, hx, _, hy, _, hz, rfl, rfl, rfl⟩
    exact ⟨hx, hy, hz⟩
  · rintro ⟨hx, hy, hz⟩
    exact ⟨_, hx, _, hy, _, hz, rfl, rfl, rfl⟩

section Sections

variable {o : Option Value} (h : ∀ w, o = some w → w.IsTable)

include h

theorem orDefault_cache?_eq_some_iff {c : CacheSettings} :
    orDefault {} cache? o = some c ↔
      orDefault 134217728 (natural? maxWord64) (o.bind (at? ["max_bytes"])) = some c.maxBytes ∧
      orDefault 86400 (natural? maxWord64) (o.bind (at? ["max_age_secs"])) = some c.maxAgeSecs ∧
      orDefault none (fun v => (text? v).map some) (o.bind (at? ["persist_path"])) =
        some c.persistPath := by
  obtain ⟨maxBytes, maxAgeSecs, persistPath⟩ := c
  cases o with
  | none => simp
  | some w =>
    obtain ⟨es, rfl⟩ := h w rfl
    simp only [orDefault_some, cache?, section?, List.map_cons, List.map_nil, Option.bind_some,
      Option.bind_eq_bind, Option.bind_eq_some_iff, Option.pure_def, Option.some.injEq,
      CacheSettings.mk.injEq, Toml.Value.at?_singleton]
    exact exists_eq_some_iff₃

theorem orDefault_federation?_eq_some_iff {c : FederationSettings} :
    orDefault {} federation? o = some c ↔
      orDefault 1000 (natural? maxWord64) (o.bind (at? ["grace_period_ms"])) = some c.gracePeriodMs ∧
      orDefault 1 (natural? maxWord32) (o.bind (at? ["retries"])) = some c.retries := by
  obtain ⟨gracePeriodMs, retries⟩ := c
  cases o with
  | none => simp
  | some w =>
    obtain ⟨es, rfl⟩ := h w rfl
    simp only [orDefault_some, federation?, section?, List.map_cons, List.map_nil, Option.bind_some,
      Option.bind_eq_bind, Option.bind_eq_some_iff, Option.pure_def, Option.some.injEq,
      FederationSettings.mk.injEq, Toml.Value.at?_singleton]
    exact exists_eq_some_iff₂

theorem orDefault_yts?_eq_some_iff {c : YtsSettings} :
    orDefault {} yts? o = some c ↔
      orDefault true boolean? (o.bind (at? ["enabled"])) = some c.enabled ∧
      orDefault "https://yts.mx" text? (o.bind (at? ["base_url"])) = some c.baseUrl := by
  obtain ⟨enabled, baseUrl⟩ := c
  cases o with
  | none => simp
  | some w =>
    obtain ⟨es, rfl⟩ := h w rfl
    simp only [orDefault_some, yts?, section?, List.map_cons, List.map_nil, Option.bind_some,
      Option.bind_eq_bind, Option.bind_eq_some_iff, Option.pure_def, Option.some.injEq,
      YtsSettings.mk.injEq, Toml.Value.at?_singleton]
    exact exists_eq_some_iff₂

theorem orDefault_ibit?_eq_some_iff {c : IbitSettings} :
    orDefault {} ibit? o = some c ↔
      orDefault true boolean? (o.bind (at? ["enabled"])) = some c.enabled ∧
      orDefault "https://ibit.am" text? (o.bind (at? ["base_url"])) = some c.baseUrl ∧
      orDefault 150 (natural? maxWord64) (o.bind (at? ["page_delay_ms"])) = some c.pageDelayMs := by
  obtain ⟨enabled, baseUrl, pageDelayMs⟩ := c
  cases o with
  | none => simp
  | some w =>
    obtain ⟨es, rfl⟩ := h w rfl
    simp only [orDefault_some, ibit?, section?, List.map_cons, List.map_nil, Option.bind_some,
      Option.bind_eq_bind, Option.bind_eq_some_iff, Option.pure_def, Option.some.injEq,
      IbitSettings.mk.injEq, Toml.Value.at?_singleton]
    exact exists_eq_some_iff₃

theorem orDefault_sources?_eq_some_iff {c : SourcesSettings} :
    orDefault {} sources? o = some c ↔
      orDefault 5 (natural? maxWord64) (o.bind (at? ["timeout_secs"])) = some c.timeoutSecs ∧
      orDefault {} yts? (o.bind (at? ["yts"])) = some c.yts ∧
      orDefault {} ibit? (o.bind (at? ["ibit"])) = some c.ibit := by
  obtain ⟨timeoutSecs, yts, ibit⟩ := c
  cases o with
  | none => simp
  | some w =>
    obtain ⟨es, rfl⟩ := h w rfl
    simp only [orDefault_some, sources?, section?, List.map_cons, List.map_nil, Option.bind_some,
      Option.bind_eq_bind, Option.bind_eq_some_iff, Option.pure_def, Option.some.injEq,
      SourcesSettings.mk.injEq, Toml.Value.at?_singleton]
    exact exists_eq_some_iff₃

end Sections

theorem ofEntries?_eq_some_iff {entries : Entries} {c : Config}
    (h : SectionsAreTables (.table entries)) :
    ofEntries? entries = some c ↔ ∀ s : Setting, s.readAt? (.table entries) = some (c.get s) := by
  have hsections : ofEntries? entries = some c ↔
      orDefault {} cache? (at? ["cache"] (.table entries)) = some c.cache ∧
      orDefault {} federation? (at? ["aggregator"] (.table entries)) = some c.federation ∧
      orDefault {} sources? (at? ["sources"] (.table entries)) = some c.sources := by
    obtain ⟨cache, federation, sources⟩ := c
    simp only [ofEntries?, section?, List.map_cons, List.map_nil, Option.bind_some, Option.bind_eq_bind,
      Option.bind_eq_some_iff, Option.pure_def, Option.some.injEq, mk.injEq, Toml.Value.at?_singleton]
    exact exists_eq_some_iff₃
  rw [hsections, orDefault_cache?_eq_some_iff (h _ (by decide)),
    orDefault_federation?_eq_some_iff (h _ (by decide)),
    orDefault_sources?_eq_some_iff (h _ (by decide))]
  simp only [← Toml.Value.at?_append, List.cons_append, List.nil_append]
  rw [orDefault_yts?_eq_some_iff (h _ (by decide)), orDefault_ibit?_eq_some_iff (h _ (by decide))]
  simp only [← Toml.Value.at?_append, List.cons_append, List.nil_append]
  constructor
  · rintro ⟨⟨hmaxBytes, hmaxAge, hpath⟩, ⟨hgrace, hretries⟩, htimeout, ⟨hyts, hytsUrl⟩, hibit, hibitUrl,
      hdelay⟩ s
    cases s <;> assumption
  · intro hread
    exact ⟨⟨hread .cacheMaxBytes, hread .cacheMaxAgeSecs, hread .cachePersistPath⟩,
      ⟨hread .gracePeriodMs, hread .retries⟩, hread .timeoutSecs,
      ⟨hread .ytsEnabled, hread .ytsBaseUrl⟩,
      hread .ibitEnabled, hread .ibitBaseUrl, hread .ibitPageDelayMs⟩

def IsForeign (name : String) : Prop :=
  ¬ variablePrefix <+: name.toList.map Char.toLower

/-- Every variable of this program gives a setting a value that can be read, and no two the same
setting. -/
structure Overrides (environment : List (String × String)) : Prop where
  settings : ∀ e ∈ environment, IsForeign e.1 ∨
    ∃ s : Setting, s.IsNamedBy e.1 ∧ (s.read? (VariableValue.read e.2)).isSome
  once : environment.Pairwise fun d e => ∀ s : Setting, s.IsNamedBy d.1 → ¬ s.IsNamedBy e.1

namespace Setting

variable {s t : Setting} {name : String}

theorem eq_of_path_isPrefix (h : s.path <+: t.path) : s = t := by
  revert h
  cases s <;> cases t <;> decide

theorem not_path_isPrefix_of_mem_sectionPaths {p : List String} (hp : p ∈ sectionPaths) :
    ¬ s.path <+: p := by
  revert p
  cases s <;> decide

theorem IsNamedBy.settingPath? (h : s.IsNamedBy name) : settingPath? name = some s.path := by
  unfold Config.settingPath?
  rw [h]
  cases s <;> decide

theorem IsNamedBy.eq (hs : s.IsNamedBy name) (ht : t.IsNamedBy name) : s = t := by
  have hpath : s.path = t.path := Option.some.inj (hs.settingPath?.symm.trans ht.settingPath?)
  exact eq_of_path_isPrefix (hpath ▸ List.prefix_rfl)

theorem IsNamedBy.not_isForeign (h : s.IsNamedBy name) : ¬ IsForeign name :=
  fun hforeign => hforeign (h ▸ List.prefix_append _ _)

theorem not_isTable_of_isSome_read? {v : Value} (h : (s.read? v).isSome) : ¬ v.IsTable := by
  rintro ⟨es, rfl⟩
  cases s <;> cases h

theorem path_ne_nil (s : Setting) : s.path ≠ [] := by
  cases s <;> decide

end Setting

theorem IsForeign.variableEntries {name : String} (h : IsForeign name) (text : String) :
    variableEntries name text = [] := by
  have hpath : settingPath? name = none := by
    unfold settingPath?
    rw [if_neg (by rwa [List.isPrefixOf_iff_prefix])]
  rw [Config.variableEntries, hpath]

theorem Setting.IsNamedBy.variableEntries {s : Setting} {name : String} (h : s.IsNamedBy name)
    (text : String) :
    Value.table (variableEntries name text) = nest (VariableValue.read text) s.path := by
  rw [Config.variableEntries, h.settingPath?]
  cases hpath : s.path with
  | nil => exact absurd hpath s.path_ne_nil
  | cons key path => rfl

/-- What the variables say together: each setting that one of them names has its value, about the others
nothing is said, and what is said of a section is a table. -/
structure Tells (environment : List (String × String)) (v : Value) : Prop where
  tidy : v.Tidy
  named : ∀ e ∈ environment, ∀ s : Setting, s.IsNamedBy e.1 → at? s.path v = some (VariableValue.read e.2)
  silent : ∀ s : Setting, (∀ e ∈ environment, ¬ s.IsNamedBy e.1) → Silent s.path v
  sections : ∀ p ∈ sectionPaths, Silent p v ∨ ∃ w, at? p v = some w ∧ w.IsTable

namespace Tells

variable {environment : List (String × String)} {v document : Value} {e : String × String}

theorem nil : Tells [] (.table []) where
  tidy := .table List.nodup_nil (by simp)
  named := by simp
  silent s _ := Toml.Value.silent_empty s.path_ne_nil
  sections p hp := .inl (Toml.Value.silent_empty fun h => by subst h; revert hp; decide)

theorem append_foreign (h : Tells environment v) (he : IsForeign e.1) : Tells (environment ++ [e]) v where
  tidy := h.tidy
  named d hd s hs := by
    rcases List.mem_append.mp hd with hd | hd
    · exact h.named d hd s hs
    · rw [List.mem_singleton.mp hd] at hs
      exact absurd he hs.not_isForeign
  silent s hs := h.silent s fun d hd => hs d (List.mem_append_left _ hd)
  sections := h.sections

theorem append_named (h : Tells environment v) {s : Setting} (hs : s.IsNamedBy e.1)
    (hvalue : ¬ (VariableValue.read e.2).IsTable) (hnew : ∀ d ∈ environment, ¬ s.IsNamedBy d.1) :
    Tells (environment ++ [e]) (overlay v (nest (VariableValue.read e.2) s.path)) := by
  have htidy := Toml.Value.tidy_nest hvalue s.path
  have hother : ∀ t : Setting, t ≠ s → Silent t.path (nest (VariableValue.read e.2) s.path) :=
    fun t ht => Toml.Value.silent_nest (fun h => ht (Setting.eq_of_path_isPrefix h))
      (fun h => ht (Setting.eq_of_path_isPrefix h).symm) _
  refine ⟨h.tidy.overlay_nest hvalue s.path, fun d hd t ht => ?_, fun t ht => ?_, fun p hp => ?_⟩
  · rcases List.mem_append.mp hd with hd | hd
    · have hts : t ≠ s := fun heq => hnew d hd (heq ▸ ht)
      rw [(hother t hts).at?_overlay htidy]
      exact h.named d hd t ht
    · obtain rfl := List.mem_singleton.mp hd
      obtain rfl := ht.eq hs
      rw [Toml.Value.at?_overlay htidy (Toml.Value.at?_nest_self t.path _),
        Toml.Value.laidOver_of_not_isTable _ hvalue]
  · have hts : t ≠ s := fun heq => ht e (by simp) (heq ▸ hs)
    exact (h.silent t fun d hd => ht d (List.mem_append_left _ hd)).overlay (hother t hts) htidy
  · by_cases hsection : p <+: s.path
    · obtain ⟨rest, hrest⟩ := hsection
      refine .inr ⟨_, Toml.Value.at?_overlay htidy (hrest ▸ Toml.Value.at?_nest p rest _), ?_⟩
      cases rest with
      | nil =>
        have hpath : s.path <+: p := ⟨[], by rw [← hrest, List.append_nil, List.append_nil]⟩
        exact absurd hpath (Setting.not_path_isPrefix_of_mem_sectionPaths hp)
      | cons key rest => exact Toml.Value.IsTable.laidOver ⟨_, rfl⟩ _
    · have hsilent := Toml.Value.silent_nest hsection
        (Setting.not_path_isPrefix_of_mem_sectionPaths hp) (VariableValue.read e.2)
      rcases h.sections p hp with hp | ⟨w, hw, htable⟩
      · exact .inl (hp.overlay hsilent htidy)
      · exact .inr ⟨w, (hsilent.at?_overlay htidy).trans hw, htable⟩

theorem sectionsAreTables (h : Tells environment v) (hdocument : SectionsAreTables document) :
    SectionsAreTables (overlay document v) := by
  intro p hp w hw
  rcases h.sections p hp with hsilent | ⟨u, hu, htable⟩
  · rw [hsilent.at?_overlay h.tidy] at hw
    exact hdocument p hp w hw
  · rw [Toml.Value.at?_overlay h.tidy hu, Option.some.injEq] at hw
    exact hw ▸ htable.laidOver _

theorem readAt?_of_named (h : Tells environment v) {s : Setting} (he : e ∈ environment)
    (hs : s.IsNamedBy e.1) (hvalue : ¬ (VariableValue.read e.2).IsTable) :
    s.readAt? (overlay document v) = s.read? (VariableValue.read e.2) := by
  rw [Setting.readAt?, Toml.Value.at?_overlay h.tidy (h.named e he s hs),
    Toml.Value.laidOver_of_not_isTable _ hvalue, orDefault_some]

theorem readAt?_of_not_named (h : Tells environment v) {s : Setting}
    (hs : ∀ e ∈ environment, ¬ s.IsNamedBy e.1) :
    s.readAt? (overlay document v) = s.readAt? document := by
  rw [Setting.readAt?, (h.silent s hs).at?_overlay h.tidy, Setting.readAt?]

end Tells

theorem environmentEntries_concat (environment : List (String × String)) (e : String × String) :
    Value.table (environmentEntries (environment ++ [e])) =
      overlay (.table (environmentEntries environment)) (.table (variableEntries e.1 e.2)) := by
  rw [environmentEntries, List.foldl_append]
  rfl

theorem Overrides.tells {environment : List (String × String)} (h : Overrides environment) :
    Tells environment (.table (environmentEntries environment)) := by
  induction environment using List.reverseRecOn with
  | nil => exact Tells.nil
  | append_singleton environment e ih =>
    obtain ⟨honce, -, hlast⟩ := List.pairwise_append.mp h.once
    have ih := ih ⟨fun d hd => h.settings d (List.mem_append_left _ hd), honce⟩
    rw [environmentEntries_concat]
    rcases h.settings e (by simp) with hforeign | ⟨s, hs, hvalue⟩
    · rw [hforeign.variableEntries]
      exact ih.append_foreign hforeign
    · rw [hs.variableEntries]
      exact ih.append_named hs (Setting.not_isTable_of_isSome_read? hvalue)
        fun d hd hsd => hlast d hd e (by simp) s hsd hs

theorem load_eq_ok_iff {path : String} {bytes : List UInt8} {environment : List (String × String)}
    {document : Entries} {c : Config} (h : (Text.Utf8.decode? bytes).bind Toml.parse? = some document) :
    load path (some bytes) environment = .ok c ↔
      ofEntries? (Value.overlayEntries document (environmentEntries environment)) = some c := by
  obtain ⟨text, htext, hparse⟩ := Option.bind_eq_some_iff.mp h
  simp only [load, htext, hparse, Option.bind_eq_bind, Option.bind_some]
  cases ofEntries? (Value.overlayEntries document (environmentEntries environment)) <;> simp

/-- A document that is loaded without variables is loaded with them. The settings that they name have
their values, every other setting is what the document says or its default. -/
theorem load_with_variables {path : String} {bytes : List UInt8} {document : Entries} {base : Config}
    {environment : List (String × String)}
    (hdocument : (Text.Utf8.decode? bytes).bind Toml.parse? = some document)
    (hsections : SectionsAreTables (.table document))
    (hbase : load path (some bytes) [] = .ok base) (hvariables : Overrides environment) :
    ∃ c, load path (some bytes) environment = .ok c ∧ ∀ s : Setting,
      (∀ e ∈ environment, s.IsNamedBy e.1 → s.read? (VariableValue.read e.2) = some (c.get s)) ∧
      ((∀ e ∈ environment, ¬ s.IsNamedBy e.1) →
        c.get s = base.get s ∧ s.readAt? (.table document) = some (c.get s)) := by
  have htells := hvariables.tells
  have hsettings := (ofEntries?_eq_some_iff hsections).mp ((load_eq_ok_iff hdocument).mp hbase)
  have hnamed : ∀ s : Setting, ∀ e ∈ environment, s.IsNamedBy e.1 →
      (s.read? (VariableValue.read e.2)).isSome ∧
      s.readAt? (overlay (.table document) (.table (environmentEntries environment))) =
        s.read? (VariableValue.read e.2) := by
    intro s e he hs
    rcases hvariables.settings e he with hforeign | ⟨t, ht, hvalue⟩
    · exact absurd hforeign hs.not_isForeign
    · obtain rfl := ht.eq hs
      exact ⟨hvalue, htells.readAt?_of_named he hs (Setting.not_isTable_of_isSome_read? hvalue)⟩
  have hread : ∀ s : Setting, ∃ k : s.Kind,
      s.readAt? (overlay (.table document) (.table (environmentEntries environment))) = some k := by
    intro s
    by_cases hs : ∃ e ∈ environment, s.IsNamedBy e.1
    · obtain ⟨e, he, hs⟩ := hs
      obtain ⟨hvalue, hread⟩ := hnamed s e he hs
      rw [hread]
      exact Option.isSome_iff_exists.mp hvalue
    · rw [htells.readAt?_of_not_named fun e he hse => hs ⟨e, he, hse⟩]
      exact ⟨_, hsettings s⟩
  choose f hf using hread
  have hload : load path (some bytes) environment = .ok (ofSettings f) := by
    refine (load_eq_ok_iff hdocument).mpr ?_
    refine (ofEntries?_eq_some_iff (htells.sectionsAreTables hsections)).mpr fun s => ?_
    rw [get_ofSettings]
    exact hf s
  refine ⟨ofSettings f, hload, fun s => ⟨fun e he hs => ?_, fun hs => ?_⟩⟩
  · rw [get_ofSettings, ← (hnamed s e he hs).2, hf]
  · have hkept := hf s
    rw [htells.readAt?_of_not_named hs] at hkept
    rw [get_ofSettings]
    exact ⟨Option.some.inj (hkept.symm.trans (hsettings s)), hkept⟩

/-- A variable for the pause leaves the address in the same section. -/
theorem load_with_variables_pause :
    ∃ c, load "config.toml" (some (Text.Utf8.encode "[sources.ibit]\nbase_url = \"http://a\"\n"))
        [("TORRENTFED_sources__IBIT__page_delay_ms", "10"), ("PATH", "/bin")] = .ok c ∧
      c.get .ibitPageDelayMs = (10 : Nat) ∧ c.get .ibitBaseUrl = "http://a" := by
  have hdocument : (Text.Utf8.decode? (Text.Utf8.encode
      "[sources.ibit]\nbase_url = \"http://a\"\n")).bind Toml.parse? =
        some [("sources", .table [("ibit", .table [("base_url", .text "http://a")])])] := by cbv
  have hsections : SectionsAreTables (.table
      [("sources", .table [("ibit", .table [("base_url", .text "http://a")])])]) := by
    intro p hp w hw
    simp only [sectionPaths, List.mem_cons, List.not_mem_nil, or_false] at hp
    rcases hp with rfl | rfl | rfl | rfl | rfl <;> cases hw <;> exact ⟨_, rfl⟩
  have hbase : load "config.toml"
      (some (Text.Utf8.encode "[sources.ibit]\nbase_url = \"http://a\"\n")) [] =
        .ok { sources := { ibit := { baseUrl := "http://a" } } } := by decide +kernel
  have hpause : Setting.ibitPageDelayMs.IsNamedBy "TORRENTFED_sources__IBIT__page_delay_ms" := by
    unfold Setting.IsNamedBy
    decide +kernel
  have hforeign : IsForeign "PATH" := by
    unfold IsForeign
    decide +kernel
  have hvariables :
      Overrides [("TORRENTFED_sources__IBIT__page_delay_ms", "10"), ("PATH", "/bin")] := by
    constructor
    · simp only [List.mem_cons, List.not_mem_nil, or_false, forall_eq_or_imp, forall_eq]
      exact ⟨.inr ⟨_, hpause, by decide +kernel⟩, .inl hforeign⟩
    · simp only [List.pairwise_cons, List.Pairwise.nil, List.mem_cons, List.not_mem_nil, or_false,
        forall_eq, false_imp_iff, implies_true, and_true]
      exact fun s _ hs => hs.not_isForeign hforeign
  obtain ⟨c, hload, hsettings⟩ := load_with_variables hdocument hsections hbase hvariables
  refine ⟨c, hload, ?_, ?_⟩
  · exact (Option.some.inj ((hsettings .ibitPageDelayMs).1 _ List.mem_cons_self hpause)).symm
  · have hunnamed : ∀ e ∈ [("TORRENTFED_sources__IBIT__page_delay_ms", "10"), ("PATH", "/bin")],
        ¬ Setting.ibitBaseUrl.IsNamedBy e.1 := by
      unfold Setting.IsNamedBy
      decide +kernel
    exact ((hsettings .ibitBaseUrl).2 hunnamed).1

end TorrentSearch.Config

import DdeTrayLoader.Tray.Registered
import DdeTrayLoader.Transition.Run
import Mathlib.Data.Finset.Basic

/-!
# Configurations

`DConfigHelper` keeps a `DConfig` object for each configuration that is asked for, and calls back
the objects that are bound to a key when its value changes. A configuration has three names, and its
object is found by the three written one after the other. The keys of an object are kept for each
configuration, but its callback is kept once.

What an object is bound to is said apart, by the calls that the helper had.
-/

namespace DdeTrayLoader.Common

open Transition
open Tray (QHash)

/-- A configuration: its `appId`, `name` and `subpath`. -/
structure Config where
  appId : String
  name : String
  subpath : String
  deriving DecidableEq, Repr

/-- The text of a value. -/
abbrev QVariant : Type := String

/-- A call of a callback. -/
structure CallbackCall (γ : Type) where
  callback : γ
  key : String
  value : QVariant
  obj : ℕ

/-- The members of `DConfigHelper`, with the objects whose `destroyed` is connected. The `DConfig`
objects are numbered; `created` has the configuration of each, and `bindInfos` the keys of the
objects that are bound to it. A null pointer is 0. -/
structure DConfigHelper (γ : Type) where
  created : List Config
  dConfigs : QHash String ℕ
  bindInfos : List (QHash ℕ (List String))
  objCallbackMap : QHash ℕ γ
  connected : Finset ℕ

/-- What is asked of the helper. `creates` says whether a `DConfig` can be created. -/
inductive HelperEvent (γ : Type) where
  | bind (config : Config) (obj : ℕ) (key : String) (callback : γ) (creates : Bool)
  | unBind (obj : ℕ) (key : String)
  | destroyed (obj : ℕ)
  /-- `getConfig` or `setConfig`. -/
  | access (config : Config) (creates : Bool)

/-- `packageDConfigPath`. -/
def packageDConfigPath (config : Config) : String := config.appId ++ config.name ++ config.subpath

namespace DConfigHelper

variable {γ : Type}

/-- The constructor. -/
def initial : DConfigHelper γ := ⟨[], ∅, [], ∅, ∅⟩

def initializeDConfig (s : DConfigHelper γ) (config : Config) (creates : Bool) :
    DConfigHelper γ × Option ℕ :=
  if !creates then (s, none)
  else
    let dConfig := s.created.length
    ({ s with
      created := s.created ++ [config]
      dConfigs := s.dConfigs.insert (packageDConfigPath config) dConfig
      bindInfos := s.bindInfos ++ [∅] }, some dConfig)

def dConfigObject (s : DConfigHelper γ) (config : Config) (creates : Bool) :
    DConfigHelper γ × Option ℕ :=
  match s.dConfigs.lookup (packageDConfigPath config) with
  | some dConfig => (s, some dConfig)
  | none => s.initializeDConfig config creates

/-- The keys of an object with one more. -/
def addKey (keys : Option (List String)) (key : String) : List String :=
  match keys with
  | some keys => if key ∈ keys then keys else keys ++ [key]
  | none => [key]

/-- The rest of `bind`, once there is a `DConfig`. -/
def bindKey (s : DConfigHelper γ) (dConfig obj : ℕ) (key : String) (callback : γ) :
    DConfigHelper γ :=
  match s.bindInfos[dConfig]? with
  | none => s
  | some bindInfo =>
    { s with
      bindInfos := s.bindInfos.set dConfig
        (bindInfo.insert obj (addKey (bindInfo.lookup obj) key))
      objCallbackMap := s.objCallbackMap.insert obj callback
      connected := insert obj s.connected }

def bind (s : DConfigHelper γ) (config : Config) (obj : ℕ) (key : String) (callback : γ)
    (creates : Bool) : DConfigHelper γ :=
  if obj = 0 then s
  else
    match s.dConfigObject config creates with
    | (s, none) => s
    | (s, some dConfig) => s.bindKey dConfig obj key callback

/-- The body of the loop in `unBind`, with whether the object is still useful. -/
def unBindInfo (obj : ℕ) (key : String) (bindInfo : QHash ℕ (List String)) :
    QHash ℕ (List String) × Bool :=
  if key = "" then (bindInfo.erase obj, false)
  else
    match bindInfo.lookup obj with
    | none => (bindInfo, false)
    | some keys =>
      let keys := keys.filter fun other => other ≠ key
      if keys = [] then (bindInfo.erase obj, false) else (bindInfo.insert obj keys, true)

def unBind (s : DConfigHelper γ) (obj : ℕ) (key : String) : DConfigHelper γ :=
  if obj = 0 then s
  else
    let objStillUseful := s.bindInfos.any fun bindInfo => (unBindInfo obj key bindInfo).2
    { s with
      bindInfos := s.bindInfos.map fun bindInfo => (unBindInfo obj key bindInfo).1
      objCallbackMap :=
        if key = "" || !objStillUseful then s.objCallbackMap.erase obj else s.objCallbackMap }

/-- A bound object is destroyed. It is connected once for each time it was bound; to unbind it once
or more is the same. -/
def destroyed (s : DConfigHelper γ) (obj : ℕ) : DConfigHelper γ :=
  if obj ∈ s.connected then
    { s.unBind obj "" with connected := s.connected.erase obj }
  else s

/-- The handler of `DConfig::valueChanged`. -/
def valueChanged (s : DConfigHelper γ) (dConfig : ℕ) (key : String) (value : QVariant) :
    List (CallbackCall γ) :=
  match s.bindInfos[dConfig]? with
  | none => []
  | some bindInfo =>
    bindInfo.entries.filterMap fun entry =>
      if key ∈ entry.2 then
        (s.objCallbackMap.lookup entry.1).map fun callback => ⟨callback, key, value, entry.1⟩
      else none

/-- The `DConfig` objects of a configuration. -/
def objects (s : DConfigHelper γ) (config : Config) : List ℕ :=
  (List.range s.created.length).filter fun dConfig => s.created[dConfig]? = some config

/-- What is called when a key of a configuration changes. -/
def changed (s : DConfigHelper γ) (config : Config) (key : String) (value : QVariant) :
    List (CallbackCall γ) :=
  (s.objects config).flatMap fun dConfig => s.valueChanged dConfig key value

def handle (s : DConfigHelper γ) : HelperEvent γ → DConfigHelper γ
  | .bind config obj key callback creates => s.bind config obj key callback creates
  | .unBind obj key => s.unBind obj key
  | .destroyed obj => s.destroyed obj
  | .access config creates => (s.dConfigObject config creates).1

/-- A `DConfig` is there for the configuration, or can be created. -/
def Available (s : DConfigHelper γ) (config : Config) (creates : Bool) : Prop :=
  packageDConfigPath config ∈ s.dConfigs ∨ creates = true

instance (s : DConfigHelper γ) (config : Config) (creates : Bool) :
    Decidable (s.Available config creates) :=
  inferInstanceAs (Decidable (_ ∨ _))

/-! ## What the operations do to the keys -/

/-- The keys of an object for a `DConfig`. -/
def keysOf (s : DConfigHelper γ) (dConfig obj : ℕ) : List String :=
  ((s.bindInfos[dConfig]?).bind fun bindInfo => bindInfo.lookup obj).getD []

variable {s : DConfigHelper γ} {config : Config} {dConfig obj : ℕ} {key : String}

theorem mem_addKey {keys : Option (List String)} {key' : String} :
    key' ∈ addKey keys key ↔ key' ∈ keys.getD [] ∨ key' = key := by
  cases keys with
  | none => simp [addKey]
  | some keys =>
    simp only [addKey, Option.getD_some]
    split_ifs with hmem
    · refine ⟨.inl, ?_⟩
      rintro (hold | rfl)
      · exact hold
      · exact hmem
    · simp

/-- To bind a key sets the callback of the object. -/
theorem bindKey_eq (s : DConfigHelper γ) {dConfig : ℕ} (obj : ℕ) (key : String) (callback : γ)
    (hd : dConfig < s.bindInfos.length) :
    s.bindKey dConfig obj key callback = { s with
      bindInfos := (s.bindKey dConfig obj key callback).bindInfos
      objCallbackMap := s.objCallbackMap.insert obj callback
      connected := insert obj s.connected } := by
  unfold bindKey
  rw [List.getElem?_eq_getElem hd]

theorem mem_keysOf_bindKey {callback : γ} (hd : dConfig < s.bindInfos.length) {dConfig' obj' : ℕ}
    {key' : String} :
    key' ∈ (s.bindKey dConfig obj key callback).keysOf dConfig' obj' ↔
      key' ∈ s.keysOf dConfig' obj' ∨ dConfig' = dConfig ∧ obj' = obj ∧ key' = key := by
  unfold bindKey keysOf
  rw [List.getElem?_eq_getElem hd]
  dsimp only
  by_cases hconfig : dConfig' = dConfig
  · subst hconfig
    rw [List.getElem?_set_self hd, List.getElem?_eq_getElem hd, Option.bind_some, Option.bind_some]
    by_cases hobj : obj' = obj
    · subst hobj
      rw [AList.lookup_insert, Option.getD_some, mem_addKey]
      simp
    · rw [AList.lookup_insert_ne hobj]
      simp [hobj]
  · rw [List.getElem?_set_ne (Ne.symm hconfig)]
    simp [hconfig]

/-- Unbinding takes the key from the object, or all keys. -/
theorem unBindInfo_lookup {bindInfo : QHash ℕ (List String)} {obj' : ℕ} {key' : String} :
    key' ∈ ((unBindInfo obj key bindInfo).1.lookup obj').getD [] ↔
      key' ∈ (bindInfo.lookup obj').getD [] ∧ ¬(obj' = obj ∧ (key = "" ∨ key' = key)) := by
  unfold unBindInfo
  by_cases hobj : obj' = obj
  · subst hobj
    split_ifs with hempty
    · simp [AList.lookup_erase, hempty]
    · cases hkeys : bindInfo.lookup obj' with
      | none => simp [hkeys]
      | some keys =>
        dsimp only
        split_ifs with hlast
        · rw [AList.lookup_erase, Option.getD_none, Option.getD_some]
          refine iff_of_false List.not_mem_nil ?_
          intro hboth
          have hmem : key' ∈ keys.filter fun other => other ≠ key := by
            rw [List.mem_filter, decide_eq_true_eq]
            exact ⟨hboth.1, fun hkey => hboth.2 ⟨rfl, .inr hkey⟩⟩
          rw [hlast] at hmem
          cases hmem
        · rw [AList.lookup_insert, Option.getD_some, Option.getD_some, List.mem_filter]
          simp [hempty]
  · have hother : (unBindInfo obj key bindInfo).1.lookup obj' = bindInfo.lookup obj' := by
      unfold unBindInfo
      split_ifs
      · exact AList.lookup_erase_ne hobj
      · cases bindInfo.lookup obj with
        | none => rfl
        | some keys =>
          dsimp only
          split_ifs
          · exact AList.lookup_erase_ne hobj
          · exact AList.lookup_insert_ne hobj
    unfold unBindInfo at hother
    rw [hother]
    simp [hobj]

theorem mem_keysOf_unBind (hobj : obj ≠ 0) {dConfig' obj' : ℕ} {key' : String} :
    key' ∈ (s.unBind obj key).keysOf dConfig' obj' ↔
      key' ∈ s.keysOf dConfig' obj' ∧ ¬(obj' = obj ∧ (key = "" ∨ key' = key)) := by
  unfold unBind keysOf
  rw [if_neg hobj]
  dsimp only
  rw [List.getElem?_map]
  cases s.bindInfos[dConfig']? with
  | none => simp
  | some bindInfo =>
    rw [Option.map_some, Option.bind_some, Option.bind_some]
    exact unBindInfo_lookup

/-- An object is still useful if it has keys left. -/
theorem unBindInfo_useful {bindInfo : QHash ℕ (List String)} :
    (unBindInfo obj key bindInfo).2 = true ↔
      ∃ key', key' ∈ ((unBindInfo obj key bindInfo).1.lookup obj).getD [] := by
  unfold unBindInfo
  split_ifs with hempty
  · simp [AList.lookup_erase]
  · cases hkeys : bindInfo.lookup obj with
    | none => simp [hkeys]
    | some keys =>
      dsimp only
      split_ifs with hlast
      · simp [AList.lookup_erase]
      · rw [AList.lookup_insert, Option.getD_some]
        exact iff_of_true rfl (List.exists_mem_of_ne_nil _ hlast)

theorem any_useful_iff (hobj : obj ≠ 0) :
    (s.bindInfos.any fun bindInfo => (unBindInfo obj key bindInfo).2) = true ↔
      ∃ dConfig key', key' ∈ (s.unBind obj key).keysOf dConfig obj := by
  rw [List.any_eq_true]
  unfold unBind keysOf
  rw [if_neg hobj]
  dsimp only
  constructor
  · intro h
    obtain ⟨bindInfo, hmem, hflag⟩ := h
    obtain ⟨dConfig, hd⟩ := List.mem_iff_getElem?.mp hmem
    obtain ⟨key', hkey'⟩ := unBindInfo_useful.mp hflag
    refine ⟨dConfig, key', ?_⟩
    rw [List.getElem?_map, hd]
    exact hkey'
  · intro h
    obtain ⟨dConfig, key', hkey'⟩ := h
    rw [List.getElem?_map] at hkey'
    cases hd : s.bindInfos[dConfig]? with
    | none => rw [hd] at hkey'; cases hkey'
    | some bindInfo =>
      rw [hd] at hkey'
      exact ⟨bindInfo, List.mem_of_getElem? hd, unBindInfo_useful.mpr ⟨key', hkey'⟩⟩

theorem lookup_unBind_ne {obj' : ℕ} (h : obj' ≠ obj) :
    (s.unBind obj key).objCallbackMap.lookup obj' = s.objCallbackMap.lookup obj' := by
  unfold unBind
  by_cases hobj : obj = 0
  · rw [if_pos hobj]
  · rw [if_neg hobj]
    dsimp only
    split_ifs
    · exact AList.lookup_erase_ne h
    · rfl

/-- The callback of an object goes with its last key. -/
theorem lookup_unBind_of_useless (hobj : obj ≠ 0)
    (h : ¬∃ dConfig key', key' ∈ (s.unBind obj key).keysOf dConfig obj) :
    (s.unBind obj key).objCallbackMap.lookup obj = none := by
  rw [← any_useful_iff hobj, Bool.not_eq_true] at h
  unfold unBind
  rw [if_neg hobj]
  dsimp only
  rw [h, Bool.not_false, Bool.or_true, if_pos rfl]
  exact AList.lookup_erase _ _

/-- It stays while there are others. -/
theorem lookup_unBind_of_useful (hobj : obj ≠ 0)
    (h : ∃ dConfig key', key' ∈ (s.unBind obj key).keysOf dConfig obj) :
    (s.unBind obj key).objCallbackMap.lookup obj = s.objCallbackMap.lookup obj := by
  have hkey : key ≠ "" := by
    rintro rfl
    obtain ⟨dConfig, key', hmem⟩ := h
    exact ((mem_keysOf_unBind hobj).mp hmem).2 ⟨rfl, .inl rfl⟩
  rw [← any_useful_iff hobj] at h
  unfold unBind
  rw [if_neg hobj]
  dsimp only
  rw [h, Bool.not_true, Bool.or_false, if_neg (by simpa using hkey)]

/-- A `DConfig` is made for the configuration. -/
def withDConfig (s : DConfigHelper γ) (config : Config) : DConfigHelper γ :=
  { s with
    created := s.created ++ [config]
    dConfigs := s.dConfigs.insert (packageDConfigPath config) s.created.length
    bindInfos := s.bindInfos ++ [∅] }

theorem created_withDConfig_iff {config' : Config} :
    (s.withDConfig config).created[dConfig]? = some config' ↔
      s.created[dConfig]? = some config' ∨ dConfig = s.created.length ∧ config' = config := by
  unfold withDConfig
  dsimp only
  obtain hold | rfl | hnew := Nat.lt_trichotomy dConfig s.created.length
  · rw [List.getElem?_append_left hold, or_iff_left fun hlast => hold.ne hlast.1]
  · rw [List.getElem?_concat_length, List.getElem?_eq_none le_rfl]
    simp [eq_comm]
  · rw [List.getElem?_eq_none (by simpa using Nat.succ_le_of_lt hnew),
      List.getElem?_eq_none hnew.le]
    simp [hnew.ne']

/-- Nothing is bound to a new `DConfig`. -/
theorem keysOf_withDConfig : (s.withDConfig config).keysOf dConfig obj = s.keysOf dConfig obj := by
  unfold keysOf withDConfig
  dsimp only
  obtain hold | hlast := Nat.lt_or_ge dConfig s.bindInfos.length
  · rw [List.getElem?_append_left hold]
  · rw [List.getElem?_append_right hlast, List.getElem?_eq_none hlast, List.getElem?_singleton]
    split_ifs <;> rfl

/-- A `DConfig` is found, or made for a new path, or there is none. -/
theorem dConfigObject_cases (s : DConfigHelper γ) (config : Config) (creates : Bool) :
    (∃ dConfig, s.dConfigs.lookup (packageDConfigPath config) = some dConfig ∧
      s.dConfigObject config creates = (s, some dConfig)) ∨
    (s.dConfigs.lookup (packageDConfigPath config) = none ∧ creates = true ∧
      s.dConfigObject config creates = (s.withDConfig config, some s.created.length)) ∨
    (¬s.Available config creates ∧ s.dConfigObject config creates = (s, none)) := by
  unfold dConfigObject initializeDConfig Available
  cases hlookup : s.dConfigs.lookup (packageDConfigPath config) with
  | some dConfig => exact .inl ⟨dConfig, rfl, rfl⟩
  | none =>
    right
    cases creates with
    | true => exact .inl ⟨rfl, rfl, rfl⟩
    | false =>
      refine .inr ⟨?_, rfl⟩
      rintro (hmem | hcreates)
      · exact AList.lookup_eq_none.mp hlookup hmem
      · cases hcreates

end DConfigHelper

/-! ## What the objects are bound to -/

/-- The callback that an object bound last for a key of a configuration and did not unbind, and the
`DConfig` objects that were given out for the configurations. -/
structure Bound (γ : Type) where
  callback : Config → ℕ → String → Option γ
  served : List (Config × ℕ)

namespace Bound

variable {γ : Type}

def initial : Bound γ := ⟨fun _ _ _ => none, []⟩

/-- A `DConfig` is given out for a configuration, if there is one. -/
def serve (b : Bound γ) (config : Config) (dConfig : Option ℕ) : Bound γ :=
  { b with served := dConfig.toList.map (fun dConfig => (config, dConfig)) ++ b.served }

/-- An object binds a key of a configuration. -/
def bind (b : Bound γ) (config : Config) (obj : ℕ) (key : String) (callback : γ) : Bound γ :=
  { b with
    callback := fun config' obj' key' =>
      if config' = config ∧ obj' = obj ∧ key' = key then some callback
      else b.callback config' obj' key' }

/-- An object unbinds a key of every configuration, or all its keys. -/
def unBind (b : Bound γ) (obj : ℕ) (key : String) : Bound γ :=
  { b with
    callback := fun config' obj' key' =>
      if obj' = obj ∧ (key = "" ∨ key' = key) then none else b.callback config' obj' key' }

/-- What an event does to the bindings; the helper says whether there is a `DConfig`. -/
def handle (b : Bound γ) (s : DConfigHelper γ) : HelperEvent γ → Bound γ
  | .bind config obj key callback creates =>
    if obj ≠ 0 ∧ s.Available config creates then
      (b.serve config (s.dConfigObject config creates).2).bind config obj key callback
    else b
  | .unBind obj key => if obj = 0 then b else b.unBind obj key
  | .destroyed obj => b.unBind obj ""
  | .access config creates => b.serve config (s.dConfigObject config creates).2

end Bound

/-- The helper and what the objects are bound to. -/
structure ConfigSystem (γ : Type) where
  helper : DConfigHelper γ
  bound : Bound γ

namespace ConfigSystem

variable {γ : Type}

def initial : ConfigSystem γ := ⟨.initial, .initial⟩

def step (s : ConfigSystem γ) (e : HelperEvent γ) : ConfigSystem γ where
  helper := s.helper.handle e
  bound := s.bound.handle s.helper e

/-- The calls of a change are those of the objects that are bound to the key, each with the callback
it bound last, the key and the value, and each once; and no two configurations share a `DConfig`. -/
structure Dispatches (s : ConfigSystem γ) : Prop where
  calls : ∀ config key value (call : CallbackCall γ),
    call ∈ s.helper.changed config key value ↔
      s.bound.callback config call.obj key = some call.callback ∧ call.key = key ∧
        call.value = value
  once : ∀ config key value, ((s.helper.changed config key value).map CallbackCall.obj).Nodup
  apart : ∀ config config' dConfig, (config, dConfig) ∈ s.bound.served →
    (config', dConfig) ∈ s.bound.served → config = config'

/-- The names of the configuration do not run together to those of another that was asked for. -/
def Apart (s : ConfigSystem γ) (config : Config) : Prop :=
  ∀ served ∈ s.bound.served, packageDConfigPath served.1 = packageDConfigPath config →
    served.1 = config

/-- The object is bound to nothing else with another callback. -/
def OneCallback (s : ConfigSystem γ) (config : Config) (obj : ℕ) (key : String) (callback : γ) :
    Prop :=
  ∀ config' key' callback', (config', key') ≠ (config, key) →
    s.bound.callback config' obj key' = some callback' → callback' = callback

/-- No configuration is asked for whose names run together to those of another, and no object binds
a key with another callback than what it is bound to already. -/
def Separate (s : ConfigSystem γ) : HelperEvent γ → Prop
  | .bind config obj key callback creates => obj ≠ 0 → s.helper.Available config creates →
    s.Apart config ∧ s.OneCallback config obj key callback
  | .access config creates => s.helper.Available config creates → s.Apart config
  | .unBind _ _ | .destroyed _ => True

/-! ## The helper keeps its books -/

/-- What holds of the helper after any events. -/
structure Sound (s : ConfigSystem γ) : Prop where
  infos : s.helper.bindInfos.length = s.helper.created.length
  created : ∀ {path dConfig}, s.helper.dConfigs.lookup path = some dConfig →
    ∃ config, s.helper.created[dConfig]? = some config ∧ packageDConfigPath config = path
  found : ∀ {config dConfig}, s.helper.created[dConfig]? = some config →
    s.helper.dConfigs.lookup (packageDConfigPath config) = some dConfig
  served : ∀ {config dConfig}, (config, dConfig) ∈ s.bound.served →
    s.helper.dConfigs.lookup (packageDConfigPath config) = some dConfig
  owner : ∀ {config dConfig}, s.helper.created[dConfig]? = some config →
    (config, dConfig) ∈ s.bound.served
  asked : ∀ {config obj key}, (s.bound.callback config obj key).isSome →
    ∃ dConfig, (config, dConfig) ∈ s.bound.served
  keys : ∀ dConfig obj key, key ∈ s.helper.keysOf dConfig obj ↔
    ∃ config, s.helper.dConfigs.lookup (packageDConfigPath config) = some dConfig ∧
      (s.bound.callback config obj key).isSome
  callbacks : ∀ obj, (s.helper.objCallbackMap.lookup obj).isSome ↔
    ∃ config key, (s.bound.callback config obj key).isSome
  connected : ∀ {config obj key}, (s.bound.callback config obj key).isSome →
    obj ≠ 0 ∧ obj ∈ s.helper.connected

theorem sound_initial : (initial : ConfigSystem γ).Sound where
  infos := rfl
  created h := by cases h
  found h := by cases h
  served h := by cases h
  owner h := by cases h
  asked h := by cases h
  keys dConfig obj key := by
    refine iff_of_false List.not_mem_nil ?_
    rintro ⟨config, -, h⟩
    cases h
  callbacks obj := by
    refine iff_of_false Bool.false_ne_true ?_
    rintro ⟨config, key, h⟩
    cases h
  connected h := by cases h

variable {s : ConfigSystem γ}

/-- A `DConfig` that is found has been created. -/
theorem Sound.lookup_lt (h : s.Sound) {path : String} {dConfig : ℕ}
    (hlookup : s.helper.dConfigs.lookup path = some dConfig) :
    dConfig < s.helper.created.length := by
  obtain ⟨config, hcreated, -⟩ := h.created hlookup
  exact (List.getElem?_eq_some_iff.mp hcreated).1

/-- A `DConfig` that was given out has been created. -/
theorem Sound.lt (h : s.Sound) {config : Config} {dConfig : ℕ}
    (hserved : (config, dConfig) ∈ s.bound.served) : dConfig < s.helper.bindInfos.length := by
  rw [h.infos]
  exact h.lookup_lt (h.served hserved)

/-- The `DConfig` that is found is given out. -/
theorem Sound.serveFound (h : s.Sound) {config : Config} {dConfig : ℕ}
    (hlookup : s.helper.dConfigs.lookup (packageDConfigPath config) = some dConfig) :
    Sound ⟨s.helper, s.bound.serve config (some dConfig)⟩ := by
  refine ⟨h.infos, h.created, h.found, ?_, fun hc => List.mem_cons_of_mem _ (h.owner hc),
    fun hb => (h.asked hb).imp fun _ => List.mem_cons_of_mem _, h.keys, h.callbacks, h.connected⟩
  intro config' dConfig' hmem
  obtain heq | hold := List.mem_cons.mp hmem
  · cases heq
    exact hlookup
  · exact h.served hold

/-- A new `DConfig` is given out for a path that had none. -/
theorem Sound.serveNew (h : s.Sound) {config : Config}
    (hnone : s.helper.dConfigs.lookup (packageDConfigPath config) = none) :
    Sound ⟨s.helper.withDConfig config, s.bound.serve config (some s.helper.created.length)⟩ := by
  have hnew {path : String} {dConfig : ℕ}
      (hlookup : s.helper.dConfigs.lookup path = some dConfig) :
      path ≠ packageDConfigPath config := by
    rintro rfl
    rw [hnone] at hlookup
    cases hlookup
  have hkeep {path : String} {dConfig : ℕ}
      (hlookup : s.helper.dConfigs.lookup path = some dConfig) :
      (s.helper.withDConfig config).dConfigs.lookup path = some dConfig :=
    (AList.lookup_insert_ne (hnew hlookup)).trans hlookup
  refine ⟨?_, ?_, ?_, ?_, ?_, ?_, ?_, h.callbacks, h.connected⟩
  · simp [DConfigHelper.withDConfig, h.infos]
  · intro path dConfig hlookup
    by_cases hpath : path = packageDConfigPath config
    · rw [hpath] at hlookup ⊢
      have hlast := Option.some.inj ((AList.lookup_insert _).symm.trans hlookup)
      exact ⟨config, DConfigHelper.created_withDConfig_iff.mpr (.inr ⟨hlast.symm, rfl⟩), rfl⟩
    · have hold := (AList.lookup_insert_ne hpath).symm.trans hlookup
      obtain ⟨config', hget, hconfig'⟩ := h.created hold
      exact ⟨config', DConfigHelper.created_withDConfig_iff.mpr (.inl hget), hconfig'⟩
  · intro config' dConfig hget
    obtain hold | ⟨rfl, rfl⟩ := DConfigHelper.created_withDConfig_iff.mp hget
    · exact hkeep (h.found hold)
    · exact AList.lookup_insert _
  · intro config' dConfig hmem
    obtain heq | hold := List.mem_cons.mp hmem
    · cases heq
      exact AList.lookup_insert _
    · exact hkeep (h.served hold)
  · intro config' dConfig hget
    obtain hold | ⟨rfl, rfl⟩ := DConfigHelper.created_withDConfig_iff.mp hget
    · exact List.mem_cons_of_mem _ (h.owner hold)
    · exact List.mem_cons_self
  · intro config' obj key hbound
    exact (h.asked hbound).imp fun _ => List.mem_cons_of_mem _
  · intro dConfig obj key
    rw [DConfigHelper.keysOf_withDConfig, h.keys]
    refine exists_congr fun config' => and_congr_left ?_
    intro hbound
    -- a configuration that something is bound to has been asked for
    obtain ⟨dConfig', hserved⟩ := h.asked hbound
    exact Eq.congr_left (AList.lookup_insert_ne (hnew (h.served hserved))).symm

/-- A configuration is asked for. -/
theorem Sound.serve (h : s.Sound) (config : Config) (creates : Bool) :
    Sound ⟨(s.helper.dConfigObject config creates).1,
      s.bound.serve config (s.helper.dConfigObject config creates).2⟩ := by
  obtain ⟨dConfig, hlookup, heq⟩ | ⟨hnone, -, heq⟩ | ⟨-, heq⟩ :=
    s.helper.dConfigObject_cases config creates
  · rw [heq]
    exact h.serveFound hlookup
  · rw [heq]
    exact h.serveNew hnone
  · rw [heq]
    exact ⟨h.infos, h.created, h.found, h.served, h.owner, h.asked, h.keys, h.callbacks,
      h.connected⟩

/-- Whether an object is bound, after it binds one more key. -/
theorem isSome_bind (b : Bound γ) {config config' : Config} {obj obj' : ℕ} {key key' : String}
    {callback : γ} : ((b.bind config obj key callback).callback config' obj' key').isSome ↔
      (b.callback config' obj' key').isSome ∨ config' = config ∧ obj' = obj ∧ key' = key := by
  unfold Bound.bind
  dsimp only
  split_ifs with hsame
  · exact iff_of_true rfl (.inr hsame)
  · simp [hsame]

theorem isSome_unBind (b : Bound γ) {config' : Config} {obj obj' : ℕ} {key key' : String} :
    ((b.unBind obj key).callback config' obj' key').isSome ↔
      (b.callback config' obj' key').isSome ∧ ¬(obj' = obj ∧ (key = "" ∨ key' = key)) := by
  unfold Bound.unBind
  dsimp only
  split_ifs with hsame
  · exact iff_of_false Bool.false_ne_true fun h => h.2 hsame
  · simp [hsame]

/-- An object binds a key for a `DConfig` that was given out for the configuration. -/
theorem Sound.bindKey (h : s.Sound) {config : Config} {dConfig obj : ℕ} (key : String)
    (callback : γ) (hobj : obj ≠ 0) (hserved : (config, dConfig) ∈ s.bound.served) :
    Sound ⟨s.helper.bindKey dConfig obj key callback, s.bound.bind config obj key callback⟩ := by
  have hlookup := h.served hserved
  have hlt := h.lt hserved
  have hshape := s.helper.bindKey_eq obj key callback hlt
  have hlength : (s.helper.bindKey dConfig obj key callback).bindInfos.length =
      s.helper.bindInfos.length := by
    unfold DConfigHelper.bindKey
    rw [List.getElem?_eq_getElem hlt]
    exact List.length_set
  have hkeys : ∀ dConfig' obj' key',
      key' ∈ (s.helper.bindKey dConfig obj key callback).keysOf dConfig' obj' ↔
        ∃ config', s.helper.dConfigs.lookup (packageDConfigPath config') = some dConfig' ∧
          ((s.bound.bind config obj key callback).callback config' obj' key').isSome := by
    intro dConfig' obj' key'
    rw [DConfigHelper.mem_keysOf_bindKey hlt, h.keys]
    simp only [isSome_bind]
    constructor
    · rintro (⟨config', hconfig', hbound⟩ | ⟨rfl, hsame⟩)
      · exact ⟨config', hconfig', .inl hbound⟩
      · exact ⟨config, hlookup, .inr ⟨rfl, hsame⟩⟩
    · rintro ⟨config', hconfig', hbound | ⟨rfl, hsame⟩⟩
      · exact .inl ⟨config', hconfig', hbound⟩
      · exact .inr ⟨Option.some.inj (hconfig'.symm.trans hlookup), hsame⟩
  rw [hshape] at hkeys ⊢
  refine ⟨hlength.trans h.infos, h.created, h.found, h.served, h.owner, ?_, hkeys, ?_, ?_⟩
  · intro config' obj' key' hbound
    obtain hold | ⟨rfl, -, -⟩ := (isSome_bind _).mp hbound
    · exact h.asked hold
    · exact ⟨dConfig, hserved⟩
  · intro obj'
    simp only [isSome_bind]
    by_cases hsame : obj' = obj
    · subst hsame
      rw [AList.lookup_insert]
      exact iff_of_true rfl ⟨config, key, .inr ⟨rfl, rfl, rfl⟩⟩
    · rw [AList.lookup_insert_ne hsame, h.callbacks]
      simp [hsame]
  · intro config' obj' key' hbound
    obtain hold | ⟨-, rfl, -⟩ := (isSome_bind _).mp hbound
    · exact (h.connected hold).imp_right (Finset.mem_insert_of_mem)
    · exact ⟨hobj, Finset.mem_insert_self _ _⟩

/-- An object unbinds a key, or all of them. -/
theorem Sound.unBind (h : s.Sound) {obj : ℕ} (key : String) (hobj : obj ≠ 0) :
    Sound ⟨s.helper.unBind obj key, s.bound.unBind obj key⟩ := by
  have hkeys : ∀ dConfig' obj' key', key' ∈ (s.helper.unBind obj key).keysOf dConfig' obj' ↔
      ∃ config', s.helper.dConfigs.lookup (packageDConfigPath config') = some dConfig' ∧
        ((s.bound.unBind obj key).callback config' obj' key').isSome := by
    intro dConfig' obj' key'
    rw [DConfigHelper.mem_keysOf_unBind hobj, h.keys]
    simp only [isSome_unBind, ← and_assoc, exists_and_right]
  have hcallbacks : ∀ obj', ((s.helper.unBind obj key).objCallbackMap.lookup obj').isSome ↔
      ∃ config' key', ((s.bound.unBind obj key).callback config' obj' key').isSome := by
    intro obj'
    by_cases hsame : obj' = obj
    · subst hsame
      by_cases huseful : ∃ dConfig key', key' ∈ (s.helper.unBind obj' key).keysOf dConfig obj'
      · rw [DConfigHelper.lookup_unBind_of_useful hobj huseful, h.callbacks]
        obtain ⟨dConfig, key', hmem⟩ := huseful
        obtain ⟨config', -, hbound⟩ := (hkeys _ _ _).mp hmem
        exact iff_of_true ⟨config', key', ((isSome_unBind _).mp hbound).1⟩
          ⟨config', key', hbound⟩
      · rw [DConfigHelper.lookup_unBind_of_useless hobj huseful]
        refine iff_of_false Bool.false_ne_true ?_
        rintro ⟨config', key', hbound⟩
        obtain ⟨dConfig, hserved⟩ := h.asked ((isSome_unBind _).mp hbound).1
        exact huseful ⟨dConfig, key', (hkeys _ _ _).mpr ⟨config', h.served hserved, hbound⟩⟩
    · rw [DConfigHelper.lookup_unBind_ne hsame, h.callbacks]
      simp [isSome_unBind, hsame]
  have hshape : s.helper.unBind obj key = { s.helper with
      bindInfos := (s.helper.unBind obj key).bindInfos
      objCallbackMap := (s.helper.unBind obj key).objCallbackMap } := by
    unfold DConfigHelper.unBind
    rw [if_neg hobj]
  have hlength : (s.helper.unBind obj key).bindInfos.length = s.helper.bindInfos.length := by
    unfold DConfigHelper.unBind
    rw [if_neg hobj]
    exact List.length_map _
  rw [hshape] at hkeys ⊢
  exact ⟨hlength.trans h.infos, h.created, h.found, h.served, h.owner,
    fun hbound => h.asked ((isSome_unBind _).mp hbound).1, hkeys, hcallbacks,
    fun hbound => h.connected ((isSome_unBind _).mp hbound).1⟩

/-- Without a `DConfig` nothing happens. -/
theorem step_unavailable {config : Config} {creates : Bool}
    (h : ¬s.helper.Available config creates) :
    s.step (.access config creates) = s ∧
      ∀ obj key callback, s.step (.bind config obj key callback creates) = s := by
  obtain ⟨dConfig, hlookup, -⟩ | ⟨-, hcreates, -⟩ | ⟨-, heq⟩ :=
    s.helper.dConfigObject_cases config creates
  · exact absurd (.inl (AList.lookup_isSome.mp (by rw [hlookup]; rfl))) h
  · exact absurd (.inr hcreates) h
  · refine ⟨?_, ?_⟩
    · simp only [step, DConfigHelper.handle, Bound.handle, heq]
      rfl
    · intro obj key callback
      have hhelper : s.helper.bind config obj key callback creates = s.helper := by
        unfold DConfigHelper.bind
        rw [heq, ite_self]
      simp only [step, DConfigHelper.handle, Bound.handle, hhelper]
      rw [if_neg fun hboth => h hboth.2]

/-- With one, an object is bound to the `DConfig` that is given out. -/
theorem step_bind {config : Config} {obj : ℕ} {creates : Bool} (hobj : obj ≠ 0)
    (h : s.helper.Available config creates) (key : String) (callback : γ) :
    ∃ dConfig, (config, dConfig) ∈ (s.step (.access config creates)).bound.served ∧
      s.step (.bind config obj key callback creates) =
        ⟨(s.step (.access config creates)).helper.bindKey dConfig obj key callback,
          (s.step (.access config creates)).bound.bind config obj key callback⟩ := by
  have hbound : s.bound.handle s.helper (.bind config obj key callback creates) =
      (s.bound.serve config (s.helper.dConfigObject config creates).2).bind config obj key
        callback := if_pos ⟨hobj, h⟩
  have hserved : ∀ s' dConfig, s.helper.dConfigObject config creates = (s', some dConfig) →
      (config, dConfig) ∈ (s.step (.access config creates)).bound.served := by
    intro s' dConfig heq
    simp only [step, Bound.handle, heq]
    exact List.mem_cons_self
  have hhelper : ∀ s' dConfig, s.helper.dConfigObject config creates = (s', some dConfig) →
      s.helper.bind config obj key callback creates = s'.bindKey dConfig obj key callback := by
    intro s' dConfig heq
    unfold DConfigHelper.bind
    rw [if_neg hobj, heq]
  have hfinish : ∀ s' dConfig, s.helper.dConfigObject config creates = (s', some dConfig) →
      ∃ dConfig, (config, dConfig) ∈ (s.step (.access config creates)).bound.served ∧
        s.step (.bind config obj key callback creates) =
          ⟨(s.step (.access config creates)).helper.bindKey dConfig obj key callback,
            (s.step (.access config creates)).bound.bind config obj key callback⟩ := by
    intro s' dConfig heq
    refine ⟨dConfig, hserved s' dConfig heq, ?_⟩
    have hbound' := hbound.trans (by rw [heq])
    unfold step
    rw [hbound']
    simp only [DConfigHelper.handle, hhelper s' dConfig heq, Bound.handle, heq]
  obtain ⟨dConfig, -, heq⟩ | ⟨-, -, heq⟩ | ⟨hnot, -⟩ :=
    s.helper.dConfigObject_cases config creates
  · exact hfinish _ _ heq
  · exact hfinish _ _ heq
  · exact absurd h hnot

/-- No object, or no `DConfig`: nothing is bound. -/
theorem step_bind_of_not {config : Config} {obj : ℕ} {creates : Bool}
    (h : ¬(obj ≠ 0 ∧ s.helper.Available config creates)) (key : String) (callback : γ) :
    s.step (.bind config obj key callback creates) = s := by
  by_cases hobj : obj = 0
  · simp only [step, DConfigHelper.handle, DConfigHelper.bind, Bound.handle]
    rw [if_pos hobj, if_neg h]
  · exact (step_unavailable fun havailable => h ⟨hobj, havailable⟩).2 obj key callback

/-- No object unbinds nothing. -/
theorem step_unBind_zero (s : ConfigSystem γ) (key : String) : s.step (.unBind 0 key) = s := rfl

theorem step_unBind {obj : ℕ} (hobj : obj ≠ 0) (key : String) :
    s.step (.unBind obj key) = ⟨s.helper.unBind obj key, s.bound.unBind obj key⟩ := by
  simp only [step, DConfigHelper.handle, Bound.handle]
  rw [if_neg hobj]

/-- To unbind what is not bound is nothing. -/
theorem unBind_of_not_bound {b : Bound γ} {obj : ℕ} {key : String}
    (h : ∀ config key, b.callback config obj key = none) : b.unBind obj key = b := by
  have hcallback : (b.unBind obj key).callback = b.callback := by
    funext config obj' key'
    unfold Bound.unBind
    dsimp only
    split_ifs with hsame
    · rw [hsame.1, h]
    · rfl
  exact congrArg (fun callback => (⟨callback, b.served⟩ : Bound γ)) hcallback

theorem Sound.not_bound (h : s.Sound) {obj : ℕ} (hnot : obj = 0 ∨ obj ∉ s.helper.connected)
    (config : Config) (key : String) : s.bound.callback config obj key = none := by
  rw [← Option.not_isSome_iff_eq_none]
  intro hbound
  obtain ⟨hobj, hconnected⟩ := h.connected hbound
  exact hnot.elim hobj fun hout => hout hconnected

theorem Sound.destroyed (h : s.Sound) (obj : ℕ) : (s.step (.destroyed obj)).Sound := by
  by_cases hbound : obj ≠ 0 ∧ obj ∈ s.helper.connected
  · have hunbound := h.unBind "" hbound.1
    have hstep : s.step (.destroyed obj) =
        ⟨{ s.helper.unBind obj "" with connected := s.helper.connected.erase obj },
          s.bound.unBind obj ""⟩ := by
      simp only [step, DConfigHelper.handle, DConfigHelper.destroyed, Bound.handle]
      rw [if_pos hbound.2]
    rw [hstep]
    refine ⟨hunbound.infos, hunbound.created, hunbound.found, hunbound.served, hunbound.owner,
      hunbound.asked, hunbound.keys, hunbound.callbacks, ?_⟩
    intro config obj' key hsome
    obtain ⟨hold, hother⟩ := (isSome_unBind _).mp hsome
    have hne : obj' ≠ obj := fun hsame => hother ⟨hsame, .inl rfl⟩
    exact (h.connected hold).imp_right fun hmem => Finset.mem_erase.mpr ⟨hne, hmem⟩
  · have hnot : obj = 0 ∨ obj ∉ s.helper.connected := by
      rwa [not_and_or, not_not] at hbound
    have hsame : s.bound.unBind obj "" = s.bound := unBind_of_not_bound (h.not_bound hnot)
    simp only [step, DConfigHelper.handle, DConfigHelper.destroyed, Bound.handle, hsame]
    split_ifs with hconnected
    · have hzero : obj = 0 := hnot.resolve_right (not_not_intro hconnected)
      have hhelper : s.helper.unBind obj "" = s.helper := by
        unfold DConfigHelper.unBind
        rw [if_pos hzero]
      rw [hhelper]
      refine ⟨h.infos, h.created, h.found, h.served, h.owner, h.asked, h.keys, h.callbacks, ?_⟩
      intro config obj' key hsome
      obtain ⟨hne, hmem⟩ := h.connected hsome
      exact ⟨hne, Finset.mem_erase.mpr ⟨fun hobj => hne (hobj.trans hzero), hmem⟩⟩
    · exact h

/-- Every step keeps the books. -/
theorem Sound.step (h : s.Sound) (e : HelperEvent γ) : (s.step e).Sound := by
  cases e with
  | access config creates => exact h.serve config creates
  | bind config obj key callback creates =>
    by_cases hboth : obj ≠ 0 ∧ s.helper.Available config creates
    · obtain ⟨dConfig, hserved, heq⟩ := step_bind hboth.1 hboth.2 key callback
      rw [heq]
      exact (h.serve config creates).bindKey key callback hboth.1 hserved
    · rw [step_bind_of_not hboth]
      exact h
  | unBind obj key =>
    by_cases hobj : obj = 0
    · rw [hobj, step_unBind_zero]
      exact h
    · rw [step_unBind hobj]
      exact h.unBind key hobj
  | destroyed obj => exact h.destroyed obj

/-! ## What a change calls -/

theorem mem_valueChanged {helper : DConfigHelper γ} {dConfig obj : ℕ} {key : String}
    {value : QVariant} {callback : γ} :
    ⟨callback, key, value, obj⟩ ∈ helper.valueChanged dConfig key value ↔
      key ∈ helper.keysOf dConfig obj ∧ helper.objCallbackMap.lookup obj = some callback := by
  unfold DConfigHelper.valueChanged DConfigHelper.keysOf
  cases helper.bindInfos[dConfig]? with
  | none => simp
  | some bindInfo =>
    simp only [Option.bind_some, List.mem_filterMap]
    constructor
    · rintro ⟨⟨obj', keys⟩, hentry, hcall⟩
      split_ifs at hcall with hkey
      obtain ⟨callback', hcallback, hsame⟩ := Option.map_eq_some_iff.mp hcall
      have hobj : obj' = obj := congrArg CallbackCall.obj hsame
      have hsame' : callback' = callback := congrArg CallbackCall.callback hsame
      subst hobj hsame'
      have hlookup : bindInfo.lookup obj' = some keys := AList.mem_lookup_iff.mpr hentry
      rw [hlookup]
      exact ⟨hkey, hcallback⟩
    · intro hboth
      obtain ⟨hkey, hcallback⟩ := hboth
      cases hlookup : bindInfo.lookup obj with
      | none => rw [hlookup] at hkey; cases hkey
      | some keys =>
        rw [hlookup] at hkey
        refine ⟨⟨obj, keys⟩, AList.mem_lookup_iff.mp hlookup, ?_⟩
        have hmem : key ∈ keys := hkey
        rw [if_pos hmem, hcallback]
        rfl

/-- A callback is given the key that changed, and its value. -/
theorem of_mem_valueChanged {helper : DConfigHelper γ} {dConfig : ℕ} {key : String}
    {value : QVariant} {call : CallbackCall γ}
    (hcall : call ∈ helper.valueChanged dConfig key value) :
    call.key = key ∧ call.value = value := by
  unfold DConfigHelper.valueChanged at hcall
  cases hinfo : helper.bindInfos[dConfig]? with
  | none =>
    rw [hinfo] at hcall
    cases hcall
  | some bindInfo =>
    rw [hinfo] at hcall
    obtain ⟨entry, -, hentry⟩ := List.mem_filterMap.mp hcall
    split_ifs at hentry
    obtain ⟨callback, -, rfl⟩ := Option.map_eq_some_iff.mp hentry
    exact ⟨rfl, rfl⟩

/-- Each object is called at most once for a `DConfig`. -/
theorem nodup_valueChanged (helper : DConfigHelper γ) (dConfig : ℕ) (key : String)
    (value : QVariant) : ((helper.valueChanged dConfig key value).map CallbackCall.obj).Nodup := by
  unfold DConfigHelper.valueChanged
  cases helper.bindInfos[dConfig]? with
  | none => exact List.nodup_nil
  | some bindInfo =>
    have hsublist : ∀ entries : List (Sigma fun _ : ℕ => List String),
        ((entries.filterMap fun entry =>
          if key ∈ entry.2 then
            (helper.objCallbackMap.lookup entry.1).map fun callback =>
              (⟨callback, key, value, entry.1⟩ : CallbackCall γ)
          else none).map CallbackCall.obj).Sublist (entries.map Sigma.fst) := by
      intro entries
      induction entries with
      | nil => exact .slnil
      | cons entry entries ih =>
        rw [List.filterMap_cons, List.map_cons]
        split_ifs
        · cases helper.objCallbackMap.lookup entry.1 with
          | none => exact ih.cons _
          | some callback => exact ih.cons_cons _
        · exact ih.cons _
    exact (hsublist bindInfo.entries).nodup bindInfo.keys_nodup

theorem mem_objects {helper : DConfigHelper γ} {config : Config} {dConfig : ℕ} :
    dConfig ∈ helper.objects config ↔ helper.created[dConfig]? = some config := by
  unfold DConfigHelper.objects
  rw [List.mem_filter, List.mem_range, decide_eq_true_eq]
  exact ⟨And.right, fun hget => ⟨(List.getElem?_eq_some_iff.mp hget).1, hget⟩⟩

/-- A configuration has one `DConfig` at most. -/
theorem Sound.objects_eq (h : s.Sound) {config : Config} {dConfig : ℕ}
    (hget : s.helper.created[dConfig]? = some config) : s.helper.objects config = [dConfig] := by
  have hnodup : (s.helper.objects config).Nodup := List.nodup_range.filter _
  have hext := List.perm_ext_iff_of_nodup hnodup (List.nodup_singleton dConfig)
  refine List.perm_singleton.mp (hext.mpr ?_)
  intro dConfig'
  rw [mem_objects, List.mem_singleton]
  constructor
  · intro hget'
    exact Option.some.inj ((h.found hget').symm.trans (h.found hget))
  · rintro rfl
    exact hget

theorem mem_changed {helper : DConfigHelper γ} {config : Config} {obj : ℕ} {key : String}
    {value : QVariant} {callback : γ} :
    ⟨callback, key, value, obj⟩ ∈ helper.changed config key value ↔
      ∃ dConfig, helper.created[dConfig]? = some config ∧
        key ∈ helper.keysOf dConfig obj ∧ helper.objCallbackMap.lookup obj = some callback := by
  unfold DConfigHelper.changed
  simp only [List.mem_flatMap, mem_objects, mem_valueChanged]

theorem of_mem_changed {helper : DConfigHelper γ} {config : Config} {key : String}
    {value : QVariant} {call : CallbackCall γ}
    (hcall : call ∈ helper.changed config key value) : call.key = key ∧ call.value = value := by
  obtain ⟨dConfig, -, hvalue⟩ := List.mem_flatMap.mp hcall
  exact of_mem_valueChanged hvalue

/-- Every object has the callback with which it is bound, whatever it is bound to. -/
def Agrees (s : ConfigSystem γ) : Prop :=
  ∀ config obj key callback, s.bound.callback config obj key = some callback →
    s.helper.objCallbackMap.lookup obj = some callback

/-- The names of two configurations that were asked for do not run together. -/
def PathsApart (s : ConfigSystem γ) : Prop :=
  ∀ first ∈ s.bound.served, ∀ second ∈ s.bound.served,
    packageDConfigPath first.1 = packageDConfigPath second.1 → first.1 = second.1

/-- A change calls each object at most once. -/
theorem Sound.nodup_changed (h : s.Sound) (config : Config) (key : String) (value : QVariant) :
    ((s.helper.changed config key value).map CallbackCall.obj).Nodup := by
  unfold DConfigHelper.changed
  by_cases hcreated : ∃ dConfig : ℕ, s.helper.created[dConfig]? = some config
  · obtain ⟨dConfig, hget⟩ := hcreated
    rw [h.objects_eq hget, List.flatMap_singleton]
    exact nodup_valueChanged s.helper dConfig key value
  · have hnone : s.helper.objects config = [] := by
      rw [List.eq_nil_iff_forall_not_mem]
      intro dConfig hmem
      exact hcreated ⟨dConfig, mem_objects.mp hmem⟩
    rw [hnone]
    exact List.nodup_nil

/-- Configurations that share a `DConfig` have one path. -/
theorem Sound.shared_path (h : s.Sound) {config config' : Config} {dConfig : ℕ}
    (hlookup : s.helper.dConfigs.lookup (packageDConfigPath config) = some dConfig)
    (hlookup' : s.helper.dConfigs.lookup (packageDConfigPath config') = some dConfig) :
    packageDConfigPath config = packageDConfigPath config' := by
  obtain ⟨owner, hget, hpath⟩ := h.created hlookup
  obtain ⟨owner', hget', hpath'⟩ := h.created hlookup'
  rw [hget, Option.some.injEq] at hget'
  rw [← hpath, hget', hpath']

/-- Where callbacks agree and paths are apart, an object is called as it is bound. -/
theorem Sound.mem_changed_bound (h : s.Sound) (hagrees : s.Agrees) (happart : s.PathsApart)
    {config : Config} {key : String} {value : QVariant} (obj : ℕ) (callback : γ) :
    ⟨callback, key, value, obj⟩ ∈ s.helper.changed config key value ↔
      s.bound.callback config obj key = some callback := by
  rw [mem_changed]
  constructor
  · rintro ⟨dConfig, hget, hkey, hcallback⟩
    obtain ⟨config', hlookup, hbound⟩ := (h.keys dConfig obj key).mp hkey
    obtain ⟨dConfig', hserved⟩ := h.asked hbound
    have hsame : config' = config :=
      happart _ hserved _ (h.owner hget) (h.shared_path hlookup (h.found hget))
    subst hsame
    obtain ⟨callback', hcallback'⟩ := Option.isSome_iff_exists.mp hbound
    have hmap := hagrees config' obj key callback' hcallback'
    rw [hcallback, Option.some.injEq] at hmap
    rw [hcallback', hmap]
  · intro hbound
    have hsome : (s.bound.callback config obj key).isSome := by rw [hbound]; rfl
    obtain ⟨dConfig, hserved⟩ := h.asked hsome
    have hlookup := h.served hserved
    obtain ⟨owner, hget, hpath⟩ := h.created hlookup
    have hsame : owner = config := happart _ (h.owner hget) _ hserved hpath
    subst hsame
    exact ⟨dConfig, hget, (h.keys dConfig obj key).mpr ⟨owner, hlookup, hsome⟩,
      hagrees owner obj key callback hbound⟩

/-- Where callbacks agree and paths are apart, a change calls what is bound. -/
theorem Sound.mem_changed_iff (h : s.Sound) (hagrees : s.Agrees) (happart : s.PathsApart)
    (config : Config) (key : String) (value : QVariant) (call : CallbackCall γ) :
    call ∈ s.helper.changed config key value ↔
      s.bound.callback config call.obj key = some call.callback ∧ call.key = key ∧
        call.value = value := by
  have hbound : ∀ obj callback, ⟨callback, key, value, obj⟩ ∈ s.helper.changed config key value ↔
      s.bound.callback config obj key = some callback := h.mem_changed_bound hagrees happart
  constructor
  · intro hcall
    obtain ⟨rfl, rfl⟩ := of_mem_changed hcall
    exact ⟨(hbound call.obj call.callback).mp hcall, rfl, rfl⟩
  · rintro ⟨hcallback, rfl, rfl⟩
    exact (hbound call.obj call.callback).mpr hcallback

/-- The changes are dispatched as they should be exactly if each object has one callback and the
configurations are told apart. -/
theorem Sound.dispatches_iff (h : s.Sound) : s.Dispatches ↔ s.Agrees ∧ s.PathsApart := by
  constructor
  · intro hdispatches
    refine ⟨?_, ?_⟩
    · intro config obj key callback hbound
      have hcall := (hdispatches.calls config key "" ⟨callback, key, "", obj⟩).mpr
        ⟨hbound, rfl, rfl⟩
      obtain ⟨dConfig, -, -, hcallback⟩ := mem_changed.mp hcall
      exact hcallback
    · rintro ⟨config, dConfig⟩ hfirst ⟨config', dConfig'⟩ hsecond hpath
      have hsame : dConfig = dConfig' := by
        have hlookup := h.served hfirst
        rw [hpath, h.served hsecond] at hlookup
        exact (Option.some.inj hlookup).symm
      exact hdispatches.apart config config' dConfig hfirst (hsame ▸ hsecond)
  · intro hboth
    obtain ⟨hagrees, happart⟩ := hboth
    refine ⟨h.mem_changed_iff hagrees happart, h.nodup_changed, ?_⟩
    intro config config' dConfig hfirst hsecond
    exact happart _ hfirst _ hsecond (h.shared_path (h.served hfirst) (h.served hsecond))

/-! ## What keeps it so -/

/-- One more configuration is told apart from the others if its names do not run together. -/
theorem pathsApart_access_iff (h : s.PathsApart) {config : Config} {creates : Bool}
    (havailable : s.helper.Available config creates) :
    (s.step (.access config creates)).PathsApart ↔ s.Apart config := by
  have hserved : ∃ dConfig, (s.step (.access config creates)).bound.served =
      (config, dConfig) :: s.bound.served := by
    obtain ⟨dConfig, -, heq⟩ | ⟨-, -, heq⟩ | ⟨hnot, -⟩ :=
      s.helper.dConfigObject_cases config creates
    · refine ⟨dConfig, ?_⟩
      simp only [step, Bound.handle, heq]
      rfl
    · refine ⟨s.helper.created.length, ?_⟩
      simp only [step, Bound.handle, heq]
      rfl
    · exact absurd havailable hnot
  obtain ⟨dConfig, hserved⟩ := hserved
  unfold PathsApart Apart
  rw [hserved]
  constructor
  · intro happart served hmem hpath
    exact happart served (List.mem_cons_of_mem _ hmem) _ List.mem_cons_self hpath
  · intro happart first hfirst second hsecond hpath
    obtain rfl | hfirst := List.mem_cons.mp hfirst
    · obtain rfl | hsecond := List.mem_cons.mp hsecond
      · rfl
      · exact (happart second hsecond hpath.symm).symm
    · obtain rfl | hsecond := List.mem_cons.mp hsecond
      · exact happart first hfirst hpath
      · exact h first hfirst second hsecond hpath

/-- To ask for a configuration binds nothing. -/
theorem agrees_access (h : s.Agrees) (config : Config) (creates : Bool) :
    (s.step (.access config creates)).Agrees := by
  obtain ⟨dConfig, -, heq⟩ | ⟨-, -, heq⟩ | ⟨-, heq⟩ :=
    s.helper.dConfigObject_cases config creates
  all_goals
    simp only [Agrees, step, DConfigHelper.handle, Bound.handle, heq]
    exact h

/-- An object keeps to one callback exactly if it binds with the one it has. -/
theorem Sound.agrees_bindKey_iff (h : s.Sound) (hagrees : s.Agrees) {config : Config}
    {dConfig obj : ℕ} {key : String} {callback : γ}
    (hserved : (config, dConfig) ∈ s.bound.served) :
    Agrees ⟨s.helper.bindKey dConfig obj key callback, s.bound.bind config obj key callback⟩ ↔
      s.OneCallback config obj key callback := by
  have hmap : (s.helper.bindKey dConfig obj key callback).objCallbackMap =
      s.helper.objCallbackMap.insert obj callback := by
    rw [s.helper.bindKey_eq obj key callback (h.lt hserved)]
  constructor
  · intro hone config' key' callback' hne hbound
    have hbound' : (s.bound.bind config obj key callback).callback config' obj key' =
        some callback' := by
      unfold Bound.bind
      dsimp only
      rw [if_neg fun hsame => hne (Prod.ext hsame.1 hsame.2.2)]
      exact hbound
    have hlookup := hone config' obj key' callback' hbound'
    dsimp only at hlookup
    rw [hmap, AList.lookup_insert] at hlookup
    exact (Option.some.inj hlookup).symm
  · intro hone config' obj' key' callback' hbound'
    dsimp only at hbound' ⊢
    rw [hmap]
    unfold Bound.bind at hbound'
    dsimp only at hbound'
    split_ifs at hbound' with hsame
    · rw [hsame.2.1, AList.lookup_insert]
      exact hbound'
    · by_cases hobj : obj' = obj
      · subst hobj
        have hne : (config', key') ≠ (config, key) := by
          intro heq
          exact hsame ⟨congrArg Prod.fst heq, rfl, congrArg Prod.snd heq⟩
        rw [AList.lookup_insert, hone config' key' callback' hne hbound']
      · rw [AList.lookup_insert_ne hobj]
        exact hagrees config' obj' key' callback' hbound'

/-- To unbind leaves the other bindings with their callback. -/
theorem Sound.agrees_unBind (h : s.Sound) (hagrees : s.Agrees) {obj : ℕ} (key : String)
    (hobj : obj ≠ 0) : Agrees ⟨s.helper.unBind obj key, s.bound.unBind obj key⟩ := by
  have hunbound := h.unBind key hobj
  intro config obj' key' callback hbound
  dsimp only at hbound ⊢
  have hold : s.bound.callback config obj' key' = some callback := by
    unfold Bound.unBind at hbound
    dsimp only at hbound
    split_ifs at hbound
    exact hbound
  by_cases hsame : obj' = obj
  · subst hsame
    have hsome : ((s.bound.unBind obj' key).callback config obj' key').isSome := by
      rw [hbound]
      rfl
    obtain ⟨dConfig, hserved⟩ := hunbound.asked hsome
    have huseful := (hunbound.keys dConfig obj' key').mpr
      ⟨config, hunbound.served hserved, hsome⟩
    rw [DConfigHelper.lookup_unBind_of_useful hobj ⟨dConfig, key', huseful⟩]
    exact hagrees config obj' key' callback hold
  · rw [DConfigHelper.lookup_unBind_ne hsame]
    exact hagrees config obj' key' callback hold

theorem Sound.agrees_destroyed (h : s.Sound) (hagrees : s.Agrees) (obj : ℕ) :
    (s.step (.destroyed obj)).Agrees := by
  simp only [ConfigSystem.step, DConfigHelper.handle, DConfigHelper.destroyed, Bound.handle]
  by_cases hbound : obj ≠ 0 ∧ obj ∈ s.helper.connected
  · rw [if_pos hbound.2]
    exact h.agrees_unBind hagrees "" hbound.1
  · have hnot : obj = 0 ∨ obj ∉ s.helper.connected := by
      rwa [not_and_or, not_not] at hbound
    rw [unBind_of_not_bound (h.not_bound hnot)]
    split_ifs with hconnected
    · have hhelper : s.helper.unBind obj "" = s.helper := by
        unfold DConfigHelper.unBind
        rw [if_pos (hnot.resolve_right (not_not_intro hconnected))]
      rw [hhelper]
      exact hagrees
    · exact hagrees

/-- A step keeps the dispatch right exactly if it is separate. -/
theorem Sound.dispatches_step_iff (h : s.Sound) (hdispatches : s.Dispatches) (e : HelperEvent γ) :
    (s.step e).Dispatches ↔ s.Separate e := by
  obtain ⟨hagrees, happart⟩ := h.dispatches_iff.mp hdispatches
  cases e with
  | access config creates =>
    by_cases havailable : s.helper.Available config creates
    · rw [(h.step _).dispatches_iff, pathsApart_access_iff happart havailable]
      exact ⟨fun hboth _ => hboth.2,
        fun hseparate => ⟨agrees_access hagrees config creates, hseparate havailable⟩⟩
    · rw [(step_unavailable havailable).1]
      exact iff_of_true hdispatches fun hnot => absurd hnot havailable
  | bind config obj key callback creates =>
    by_cases hboth : obj ≠ 0 ∧ s.helper.Available config creates
    · obtain ⟨hobj, havailable⟩ := hboth
      obtain ⟨dConfig, hserved, heq⟩ := step_bind hobj havailable key callback
      have hasked : (s.step (.access config creates)).Sound := h.serve config creates
      have haccess := agrees_access hagrees config creates
      rw [(h.step _).dispatches_iff, heq, Sound.agrees_bindKey_iff hasked haccess hserved]
      have hpaths : PathsApart ⟨(s.step (.access config creates)).helper.bindKey dConfig obj key
          callback, (s.step (.access config creates)).bound.bind config obj key callback⟩ ↔
            (s.step (.access config creates)).PathsApart := Iff.rfl
      rw [hpaths, pathsApart_access_iff happart havailable]
      constructor
      · intro hright _ _
        exact ⟨hright.2, hright.1⟩
      · intro hseparate
        exact (hseparate hobj havailable).symm
    · rw [step_bind_of_not hboth]
      exact iff_of_true hdispatches fun hobj havailable => absurd ⟨hobj, havailable⟩ hboth
  | unBind obj key =>
    refine iff_of_true ?_ trivial
    by_cases hobj : obj = 0
    · rw [hobj, step_unBind_zero]
      exact hdispatches
    · rw [(h.step _).dispatches_iff, step_unBind hobj]
      exact ⟨h.agrees_unBind hagrees key hobj, happart⟩
  | destroyed obj =>
    refine iff_of_true ?_ trivial
    rw [(h.step _).dispatches_iff]
    exact ⟨h.agrees_destroyed hagrees obj, happart⟩

/-- After every event the changes are dispatched as they should be exactly if at every event the
configurations are told apart by their names run together, and each object has one callback. -/
theorem dispatches_iff_separate (γ : Type) (es : List (HelperEvent γ)) :
    Always step Dispatches initial es ↔ Obeys step Separate initial es := by
  have hinitial : (initial : ConfigSystem γ).Dispatches := by
    rw [sound_initial.dispatches_iff]
    refine ⟨?_, ?_⟩
    · intro config obj key callback hbound
      cases hbound
    · intro first hfirst
      cases hfirst
  exact always_iff_obeys (fun _ e h => h.step e) (fun _ e h hs => h.dispatches_step_iff hs e) es
    sound_initial hinitial

/-- One object binds two keys of a configuration, each with a callback of its own. -/
theorem second_callback_replaces : ¬∀ (γ : Type) (es : List (HelperEvent γ)),
    Always step Dispatches initial es := by
  intro hall
  let config : Config := ⟨"org.deepin.dde.tray-loader", "org.deepin.dde.dock.plugin.power", ""⟩
  have hseparate := (dispatches_iff_separate Bool _).mp (hall Bool
    [.bind config 1 "showTimeToFull" false true, .bind config 1 "scheduledShutdown" true true])
  have hone := (hseparate.2.1 (by decide) (.inr rfl)).2
  have hsame := hone config "showTimeToFull" false (by decide) rfl
  cases hsame

/-- Two configurations whose names run together share a `DConfig`. -/
example : packageDConfigPath ⟨"org.deepin", ".dde", ""⟩ =
    packageDConfigPath ⟨"org", ".deepin", ".dde"⟩ := by decide

end ConfigSystem

end DdeTrayLoader.Common

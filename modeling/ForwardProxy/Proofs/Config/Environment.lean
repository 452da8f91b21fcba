import ForwardProxy.Config.Environment
import ForwardProxy.Proofs.Text
import Mathlib.Data.List.Flatten

/-!
This module contains the theory of loading. Main statement: `load_asks_in_order` says which values a
configuration is loaded from, which variables are asked for and in which order, and that nothing
else of an environment counts.
-/

namespace ForwardProxy

namespace Environment

def valueOf (env : Environment) (key : Text) : Text :=
  (env key).getD []

variable {env other : Environment}

theorem firstValue_cons (key : Text) (keys : List Text) :
    env.firstValue (key :: keys) =
      if env.valueOf key = [] then ((env.firstValue keys).1, key :: (env.firstValue keys).2)
      else (env.valueOf key, [key]) := by
  rw [firstValue, valueOf]
  match env key with
  | none => rfl
  | some [] => rfl
  | some (c :: value) => rfl

theorem asked_prefix (keys : List Text) : (env.firstValue keys).2 <+: keys := by
  induction keys with
  | nil => exact List.prefix_rfl
  | cons key keys ih =>
    rw [firstValue_cons]
    split
    · exact List.cons_prefix_cons.2 ⟨rfl, ih⟩
    · exact List.cons_prefix_cons.2 ⟨rfl, List.nil_prefix⟩

theorem valueOf_congr {key : Text} (h : other key = env key) :
    other.valueOf key = env.valueOf key := by
  unfold valueOf
  rw [h]

theorem firstValue_congr {keys : List Text}
    (h : ∀ key ∈ (env.firstValue keys).2, other key = env key) :
    other.firstValue keys = env.firstValue keys := by
  induction keys with
  | nil => rfl
  | cons key keys ih =>
    rw [firstValue_cons] at h ⊢
    rw [firstValue_cons]
    -- The first key is asked for in any case, and the other ones only if it has no value.
    split at h
    · next hempty =>
      have hrest := ih fun k hk => h k (List.mem_cons_of_mem key hk)
      rw [valueOf_congr (h key List.mem_cons_self), hrest]
    · next hvalue =>
      rw [valueOf_congr (h key List.mem_cons_self), if_neg hvalue, if_neg hvalue]

def utf8 (value : Text) : List UInt8 :=
  value.flatMap String.utf8EncodeChar

theorem decode_utf8 (value : Text) :
    (utf8 value).toByteArray.utf8Decode? = some value.toArray :=
  List.utf8Decode?_utf8Encode

theorem utf8_inj {s t : Text} : utf8 s = utf8 t ↔ s = t := by
  constructor
  · intro h
    have hdecode := decode_utf8 s
    rw [h, decode_utf8, Option.some.injEq] at hdecode
    exact (List.toArray_inj hdecode).symm
  · exact congrArg utf8

theorem ofBytes_eq_some_iff {entries : List (Text × List UInt8)} {key value : Text} :
    ofBytes entries key = some value ↔ entries.lookup key = some (utf8 value) := by
  unfold ofBytes
  cases entries.lookup key with
  | none => simp
  | some bytes =>
    rw [Option.bind_some, Option.some.injEq]
    exact Text.utf8Decode?_eq_some_iff

theorem ofBytes_eq_of_lookup {entries : List (Text × List UInt8)} {key : Text}
    (h : entries.lookup key = (env key).map utf8) : ofBytes entries key = env key := by
  apply Option.ext
  intro value
  rw [ofBytes_eq_some_iff, h, Option.map_eq_some_iff]
  constructor
  · rintro ⟨text, htext, hbytes⟩
    rwa [← utf8_inj.1 hbytes]
  · intro hvalue
    exact ⟨value, hvalue, rfl⟩

theorem valueOf_ofBytes_eq_nil {entries : List (Text × List UInt8)} {key : Text}
    {bytes : List UInt8} (hlookup : entries.lookup key = some bytes)
    (hbytes : ∀ value, utf8 value ≠ bytes) : valueOf (ofBytes entries) key = [] := by
  have hnone : ofBytes entries key = none := by
    apply Option.eq_none_iff_forall_ne_some.2
    intro value hvalue
    rw [ofBytes_eq_some_iff, hlookup, Option.some.injEq] at hvalue
    exact hbytes value hvalue.symm
  rw [valueOf, hnone]
  rfl

end Environment

namespace Config

def Field.upperName : Field → Text
  | .httpProxy => "HTTP_PROXY".toList
  | .httpsProxy => "HTTPS_PROXY".toList
  | .noProxy => "NO_PROXY".toList

def Field.lowerName : Field → Text
  | .httpProxy => "http_proxy".toList
  | .httpsProxy => "https_proxy".toList
  | .noProxy => "no_proxy".toList

theorem Field.variables_eq (f : Field) : f.variables = [f.upperName, f.lowerName] := by
  cases f with
  | httpProxy => rfl
  | httpsProxy => rfl
  | noProxy => rfl

theorem Field.mem_all (f : Field) : f ∈ all := by
  cases f with
  | httpProxy => decide
  | httpsProxy => decide
  | noProxy => decide

open Environment (utf8)

variable {env other : Environment}

theorem get_load (env : Environment) (f : Field) :
    (load env).config.get f = (env.firstValue f.variables).1 := by
  cases f with
  | httpProxy => rfl
  | httpsProxy => rfl
  | noProxy => rfl

theorem asked_load (env : Environment) :
    (load env).asked = Field.all.flatMap fun f => (env.firstValue f.variables).2 := by
  simp [load, Field.all]

theorem firstValue_variables (env : Environment) (f : Field) :
    env.firstValue f.variables =
      if env.valueOf f.upperName = [] then (env.valueOf f.lowerName, [f.upperName, f.lowerName])
      else (env.valueOf f.upperName, [f.upperName]) := by
  rw [Field.variables_eq, Environment.firstValue_cons, Environment.firstValue_cons]
  split
  · split
    · next h =>
      rw [h]
      rfl
    · rfl
  · rfl

theorem mem_asked_load_iff {key : Text} :
    key ∈ (load env).asked ↔
      ∃ f : Field, key = f.upperName ∨ key = f.lowerName ∧ env.valueOf f.upperName = [] := by
  rw [asked_load, List.mem_flatMap]
  apply exists_congr
  intro f
  rw [firstValue_variables]
  split
  · next h => simp [Field.mem_all, h]
  · next h => simp [Field.mem_all, h]

theorem lowerName_mem_asked_iff {f : Field} :
    f.lowerName ∈ (load env).asked ↔ env.valueOf f.upperName = [] := by
  have lower_ne_upper : ∀ f g : Field, f.lowerName ≠ g.upperName := by
    intro f g
    cases f <;> cases g <;> decide
  have lower_inj : ∀ f g : Field, f.lowerName = g.lowerName → f = g := by
    intro f g
    cases f <;> cases g <;> decide
  rw [mem_asked_load_iff]
  constructor
  · rintro ⟨g, hupper | ⟨hlower, hempty⟩⟩
    · exact absurd hupper (lower_ne_upper f g)
    · rwa [lower_inj f g hlower]
  · intro hempty
    exact ⟨f, .inr ⟨rfl, hempty⟩⟩

theorem nodup_asked_load (env : Environment) : (load env).asked.Nodup := by
  have hsub : (load env).asked.Sublist (Field.all.flatMap Field.variables) := by
    rw [asked_load]
    apply List.Sublist.flatMap_right
    intro f _
    exact (Environment.asked_prefix f.variables).sublist
  apply List.Nodup.sublist hsub
  decide

theorem load_congr (h : ∀ key ∈ (load env).asked, other key = env key) :
    load other = load env := by
  have hfields (f : Field) : other.firstValue f.variables = env.firstValue f.variables := by
    apply Environment.firstValue_congr
    intro key hkey
    apply h
    rw [asked_load, List.mem_flatMap]
    exact ⟨f, Field.mem_all f, hkey⟩
  unfold load
  simp only [hfields]

theorem load_asks_in_order (env : Environment) :
    (∀ f, (load env).config.get f =
      if env.valueOf f.upperName = [] then env.valueOf f.lowerName else env.valueOf f.upperName) ∧
    (load env).asked = [Field.httpProxy, .httpsProxy, .noProxy].flatMap (fun f =>
      f.upperName :: if env.valueOf f.upperName = [] then [f.lowerName] else []) ∧
    (∀ f : Field, f.lowerName ∈ (load env).asked ↔ env.valueOf f.upperName = []) ∧
    (load env).asked.Nodup ∧
    (∀ key ∈ (load env).asked, ∃ f : Field, key = f.upperName ∨ key = f.lowerName) ∧
    (∀ other : Environment, (∀ key ∈ (load env).asked, other key = env key) →
      load other = load env) ∧
    (∀ entries, (∀ key ∈ (load env).asked, entries.lookup key = (env key).map utf8) →
      load (.ofBytes entries) = load env) ∧
    (∀ entries (f : Field) bytes, entries.lookup f.upperName = some bytes →
        (∀ value, utf8 value ≠ bytes) →
      f.lowerName ∈ (load (.ofBytes entries)).asked ∧
      (load (.ofBytes entries)).config.get f =
        Environment.valueOf (.ofBytes entries) f.lowerName) := by
  refine ⟨?_, ?_, fun f => lowerName_mem_asked_iff, nodup_asked_load env, ?_, ?_, ?_, ?_⟩
  · intro f
    rw [get_load, firstValue_variables]
    split
    · rfl
    · rfl
  · rw [asked_load]
    congr 1
    funext f
    rw [firstValue_variables]
    split
    · rfl
    · rfl
  · intro key hkey
    obtain ⟨f, hupper | ⟨hlower, -⟩⟩ := mem_asked_load_iff.1 hkey
    · exact ⟨f, .inl hupper⟩
    · exact ⟨f, .inr hlower⟩
  · intro other h
    exact load_congr h
  · intro entries h
    apply load_congr
    intro key hkey
    exact Environment.ofBytes_eq_of_lookup (h key hkey)
  · intro entries f bytes hlookup hbytes
    have hempty : Environment.valueOf (.ofBytes entries) f.upperName = [] :=
      Environment.valueOf_ofBytes_eq_nil hlookup hbytes
    refine ⟨lowerName_mem_asked_iff.2 hempty, ?_⟩
    rw [get_load, firstValue_variables, if_pos hempty]

theorem load_past_shadowed_and_broken :
    let env : Environment :=
      .ofList [("HTTP_PROXY".toList, "p:1".toList), ("https_proxy".toList, "q:2".toList)]
    let other : Environment :=
      .ofList [("http_proxy".toList, "r:3".toList), ("https_proxy".toList, "q:2".toList),
        ("HTTP_PROXY".toList, "p:1".toList)]
    let entries := [("NO_PROXY".toList, [0xFF]), ("no_proxy".toList, utf8 ['*'])]
    other "http_proxy".toList ≠ env "http_proxy".toList ∧ load other = load env ∧
    (∀ value, utf8 value ≠ [0xFF]) ∧ (load (.ofBytes entries)).config.get .noProxy = ['*'] := by
  intro env other entries
  have hbroken : ∀ value, utf8 value ≠ [0xFF] := by
    intro value h
    have hdecode := Environment.decode_utf8 value
    rw [h] at hdecode
    have hnone : [(0xFF : UInt8)].toByteArray.utf8Decode? = none := rfl
    rw [hnone] at hdecode
    contradiction
  have hlookup : entries.lookup (Field.upperName .noProxy) = some [0xFF] := by decide
  have hstar : Environment.ofBytes entries (Field.lowerName .noProxy) = some ['*'] := by
    apply Environment.ofBytes_eq_some_iff.2
    decide
  obtain ⟨-, -, -, -, -, hothers, -, hbytes⟩ := load_asks_in_order env
  refine ⟨by decide, ?_, hbroken, ?_⟩
  · apply hothers
    decide
  · rw [(hbytes entries .noProxy [0xFF] hlookup hbroken).2, Environment.valueOf, hstar]
    rfl

end Config

end ForwardProxy

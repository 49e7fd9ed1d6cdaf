import MeshNode.Settings

/-!
# Layers, setting by setting

There are twenty settings, and a layer is what it says about each of them. Laying one layer over
another is choosing between two answers, for every setting by itself; the laws of joining layers
are the laws of that choice.
-/

namespace MeshNode.Settings

/-- The settings. -/
inductive Setting where
  | coordinator
  | vpc
  | authToken
  | user
  | password
  | insecureHttp
  | interface
  | listenPort
  | mode
  | relay
  | relayOnly
  | advertised
  | stunServers
  | reconcileSeconds
  | probeSeconds
  | probeBatch
  | probeMilliseconds
  | natRecheckSeconds
  | statusListen
  | stateDirectory
  deriving DecidableEq, Repr

/-- What a setting may be. -/
abbrev Setting.Value : Setting → Type
  | .coordinator => String
  | .vpc => Uuid
  | .authToken => Secret
  | .user => String
  | .password => Secret
  | .insecureHttp => Bool
  | .interface => String
  | .listenPort => UInt16
  | .mode => TunnelKind
  | .relay => Bool
  | .relayOnly => Bool
  | .advertised => List Network
  | .stunServers => List String
  | .reconcileSeconds => Nat
  | .probeSeconds => Nat
  | .probeBatch => Nat
  | .probeMilliseconds => Nat
  | .natRecheckSeconds => Nat
  | .statusListen => SocketAddress
  | .stateDirectory => String

namespace Layer

/-- What a layer says about a setting. -/
def get (layer : Layer) : (setting : Setting) → Option setting.Value
  | .coordinator => layer.coordinator
  | .vpc => layer.vpc
  | .authToken => layer.authToken
  | .user => layer.user
  | .password => layer.password
  | .insecureHttp => layer.insecureHttp
  | .interface => layer.interface
  | .listenPort => layer.listenPort
  | .mode => layer.mode
  | .relay => layer.relay
  | .relayOnly => layer.relayOnly
  | .advertised => layer.advertised
  | .stunServers => layer.stunServers
  | .reconcileSeconds => layer.reconcileSeconds
  | .probeSeconds => layer.probeSeconds
  | .probeBatch => layer.probeBatch
  | .probeMilliseconds => layer.probeMilliseconds
  | .natRecheckSeconds => layer.natRecheckSeconds
  | .statusListen => layer.statusListen
  | .stateDirectory => layer.stateDirectory

/-- Let a layer say something about a setting. -/
def put (layer : Layer) : (setting : Setting) → setting.Value → Layer
  | .coordinator, value => { layer with coordinator := some value }
  | .vpc, value => { layer with vpc := some value }
  | .authToken, value => { layer with authToken := some value }
  | .user, value => { layer with user := some value }
  | .password, value => { layer with password := some value }
  | .insecureHttp, value => { layer with insecureHttp := some value }
  | .interface, value => { layer with interface := some value }
  | .listenPort, value => { layer with listenPort := some value }
  | .mode, value => { layer with mode := some value }
  | .relay, value => { layer with relay := some value }
  | .relayOnly, value => { layer with relayOnly := some value }
  | .advertised, value => { layer with advertised := some value }
  | .stunServers, value => { layer with stunServers := some value }
  | .reconcileSeconds, value => { layer with reconcileSeconds := some value }
  | .probeSeconds, value => { layer with probeSeconds := some value }
  | .probeBatch, value => { layer with probeBatch := some value }
  | .probeMilliseconds, value => { layer with probeMilliseconds := some value }
  | .natRecheckSeconds, value => { layer with natRecheckSeconds := some value }
  | .statusListen, value => { layer with statusListen := some value }
  | .stateDirectory, value => { layer with stateDirectory := some value }

theorem get_put_self (layer : Layer) (setting : Setting) (value : setting.Value) :
    (layer.put setting value).get setting = some value := by
  cases setting <;> rfl

theorem get_put_other (layer : Layer) (setting : Setting) (value : setting.Value) (other : Setting)
    (different : other ≠ setting) : (layer.put setting value).get other = layer.get other := by
  cases setting <;> cases other <;> first | rfl | exact absurd rfl different

/-- Putting a value where there was none adds it. -/
theorem get_put_iff {layer : Layer} {target : Setting} {given : target.Value}
    {added : (setting : Setting) → setting.Value → Prop} (unset : layer.get target = none)
    (own : ∀ value, added target value ↔ given = value)
    (others : ∀ setting value, added setting value → setting = target) (setting : Setting)
    (value : setting.Value) :
    (layer.put target given).get setting = some value ↔
      layer.get setting = some value ∨ added setting value := by
  by_cases same : setting = target
  · subst same
    rw [get_put_self, unset, own, Option.some.injEq]
    simp
  · rw [get_put_other _ _ _ _ same]
    exact (or_iff_left fun also => same (others setting value also)).symm

/-- A layer is nothing but what it says about the settings. -/
theorem ext_get {one other : Layer} (same : ∀ setting, one.get setting = other.get setting) :
    one = other := by
  cases one
  cases other
  rw [mk.injEq]
  exact ⟨same .coordinator, same .vpc, same .authToken, same .user, same .password,
    same .insecureHttp, same .interface, same .listenPort, same .mode, same .relay,
    same .relayOnly, same .advertised, same .stunServers, same .reconcileSeconds,
    same .probeSeconds, same .probeBatch, same .probeMilliseconds, same .natRecheckSeconds,
    same .statusListen, same .stateDirectory⟩

@[simp]
theorem get_empty (setting : Setting) : ({} : Layer).get setting = none := by
  cases setting <;> rfl

/-- Every setting of joined layers is the upper layer's, or the lower one's where the upper layer
leaves it open. -/
@[simp]
theorem get_merge (lower upper : Layer) (setting : Setting) :
    (lower.merge upper).get setting = (upper.get setting).or (lower.get setting) := by
  cases setting <;> rfl

/-- It does not matter which of two neighbouring pairs of layers is joined first. -/
theorem merge_assoc (first second third : Layer) :
    (first.merge second).merge third = first.merge (second.merge third) :=
  ext_get fun setting => by simp only [get_merge, Option.or_assoc]

theorem merge_empty (layer : Layer) : layer.merge {} = layer :=
  ext_get fun setting => by simp only [get_merge, get_empty, Option.none_or]

theorem empty_merge (layer : Layer) : ({} : Layer).merge layer = layer :=
  ext_get fun setting => by simp only [get_merge, get_empty, Option.or_none]

end Layer

end MeshNode.Settings

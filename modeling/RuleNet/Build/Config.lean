/-
**Build configuration.**

* `BuildConfig`: which nodes are shared, whether a failed rule is taken out again, and tracing;
* `default`, `traced`, `unshared`: the three usual settings.
-/

import RuleNet.Text.Quoted
import RuleNet.Trace.Tracer

namespace RuleNet

/-- How rules are compiled. -/
structure BuildConfig where
  shareAlpha : Bool
  shareBeta : Bool
  /-- A rule that fails leaves no nodes behind. -/
  rollback : Bool
  tracer : TracerConfig
deriving DecidableEq, Repr

namespace BuildConfig

instance : Inhabited BuildConfig := ⟨true, true, true, default⟩

def traced : BuildConfig :=
  { (default : BuildConfig) with tracer := { (default : TracerConfig) with enabled := true } }

def unshared : BuildConfig :=
  { (default : BuildConfig) with shareAlpha := false, shareBeta := false }

end BuildConfig

def boolText (b : Bool) : String :=
  if b then "true" else "false"

def TracerConfig.text (config : TracerConfig) : String :=
  Text.record "TracerConfig"
    [("enabled", boolText config.enabled), ("buffer_size", toString config.capacity),
      ("json_format", boolText config.json),
      ("event_filter", Text.bracketed (config.wanted.map Text.quoted))]

def BuildConfig.text (config : BuildConfig) : String :=
  Text.record "BuildConfig"
    [("share_alpha_nodes", boolText config.shareAlpha),
      ("share_beta_nodes", boolText config.shareBeta),
      ("rollback_on_failure", boolText config.rollback), ("tracer", config.tracer.text)]

end RuleNet

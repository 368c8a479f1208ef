/-!
What a factory is told about the names of its invokers.
-/

namespace LateBinding

structure Options where
  namePrefix : String
  /-- Whether names carry a tag of their own. Untagged invokers all bear the bare prefix. -/
  tagged : Bool
  deriving DecidableEq

namespace Options

def default : Options := ⟨"DynamicInjector", true⟩

def withNamePrefix (options : Options) (text : String) : Options :=
  { options with namePrefix := text }

def withTags (options : Options) (tagged : Bool) : Options :=
  { options with tagged }

end Options

end LateBinding

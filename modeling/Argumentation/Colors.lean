import Argumentation.Argument
import Argumentation.Strength

/-!
# Colours

The colours of an argument show its result.  Strengths run from red over amber to
green.
-/

namespace Argumentation

/-- The colours of an argument. -/
structure Colors where
  /-- The colour of the inside. -/
  fill : String
  /-- The colour of the outline. -/
  border : String
  deriving DecidableEq

namespace Colors

/-- The colours of the buckets of strength. -/
def scale : List Colors :=
  [⟨"#ce2222", "#971919"⟩, ⟨"#d12c23", "#99201a"⟩, ⟨"#d53725", "#9b281b"⟩,
   ⟨"#d84227", "#9d301d"⟩, ⟨"#dc4d29", "#9f381e"⟩, ⟨"#df582b", "#a23f1f"⟩,
   ⟨"#e3632d", "#a44721"⟩, ⟨"#e66e2f", "#a64f22"⟩, ⟨"#ea7831", "#a85723"⟩,
   ⟨"#ed8333", "#aa5f25"⟩, ⟨"#f18e35", "#ad6626"⟩, ⟨"#f49937", "#af6e27"⟩,
   ⟨"#f8a439", "#b17629"⟩, ⟨"#fbaf3b", "#b37e2a"⟩, ⟨"#ffba3d", "#b6862c"⟩,
   ⟨"#f0b93e", "#ab852c"⟩, ⟨"#e1b93f", "#a0842d"⟩, ⟨"#d2b940", "#96832d"⟩,
   ⟨"#c3b941", "#8b832e"⟩, ⟨"#b5b942", "#80822f"⟩, ⟨"#a6b943", "#76812f"⟩,
   ⟨"#97b945", "#6b8130"⟩, ⟨"#88b946", "#608031"⟩, ⟨"#79b947", "#567f31"⟩,
   ⟨"#6bb948", "#4b7e32"⟩, ⟨"#5cb949", "#407e33"⟩, ⟨"#4db94a", "#367d33"⟩,
   ⟨"#3eb94b", "#2b7c34"⟩, ⟨"#30b94d", "#217c35"⟩]

/-- The colours of the best strength and of an accepted argument. -/
def green : Colors := ⟨"#30b94d", "#217c35"⟩

end Colors

/-- The colours of an appearance.  A bucket beyond the scale has the colours of the
last one. -/
def Appearance.colors : Appearance → Colors
  | .plain => ⟨"#1976d2", "#145a86"⟩
  | .accepted => .green
  | .rejected => ⟨"#ce2222", "#971919"⟩
  | .undecided => ⟨"#ffba3d", "#b6862c"⟩
  | .strength bucket => Colors.scale[bucket]?.getD .green

example : Colors.scale.length = Strength.lastBucket + 1 := rfl

end Argumentation

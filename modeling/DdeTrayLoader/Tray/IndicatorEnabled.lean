import DdeTrayLoader.Tray.IndicatorContent

/-!
# When an indicator is enabled

The text and the icon of an indicator each enable or disable it when a value of them comes in, so
the value that comes in last decides.
-/

namespace DdeTrayLoader.Tray

open DdeTrayLoader.Transition

namespace IndicatorSystem

variable {s : IndicatorSystem} {feature : Feature} {dataConfig : DataConfig} {propertyName : String}

/-- No message is on its way for what the file does not name, and the value that came in last
decided whether the indicator is enabled. -/
structure Shown (s : IndicatorSystem) : Prop where
  unread : ∀ feature, s.config feature = none → (s.service feature).messages = []
  last : ∃ feature, s.config feature ≠ none ∧
    s.handler.enabled = !(s.handler.content feature).isEmpty

theorem Shown.step (hs : s.Shown) (e : IndicatorEvent) : (s.step e).Shown := by
  refine ⟨fun feature hconfig => ?_, ?_⟩
  · rw [config_step] at hconfig
    have hdeaf : s.Deaf feature := fun dataConfig hsome => nomatch hconfig.symm.trans hsome
    exact (hdeaf.step (hs.unread feature hconfig) e).1
  · rw [config_step]
    rcases s.step_cases e with heq | ⟨_, _, _, _, _, -, -, heq⟩ |
      ⟨feature, message, rest, hmessages, heq⟩
    · rw [heq]
      exact hs.last
    · rw [heq]
      exact hs.last
    · rw [heq]
      dsimp only
      rcases s.handler.propertyChanged_cases feature message with hsame | ⟨value, hsame⟩
      · rw [hsame]
        exact hs.last
      · rw [hsame]
        refine ⟨feature, fun hconfig => ?_, ?_⟩
        · exact nomatch hmessages.symm.trans (hs.unread feature hconfig)
        · rw [DDEindicatorProtocolHandler.enabled_callback,
            DDEindicatorProtocolHandler.content_callback, Function.update_self]

section
variable {config : Feature → Option DataConfig} (reply : Feature → Bytes)
  (properties : Feature → String → Bytes)

end

/-- A message with a value for the feature arrives. -/
theorem Reads.step_deliver (hs : s.Reads feature dataConfig propertyName)
    {message : ChangeMessage} {rest : List ChangeMessage} {value : Bytes}
    (hmessages : (s.service feature).messages = message :: rest)
    (htold : message.told dataConfig propertyName = some value) :
    s.step (.deliver feature) =
      { s with
        handler := s.handler.callback feature value
        service := Function.update s.service feature
          { s.service feature with messages := rest } } := by
  rw [IndicatorSystem.step_deliver hmessages, hs.propertyChanged_some htold]

end IndicatorSystem

end DdeTrayLoader.Tray

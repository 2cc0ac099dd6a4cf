import EthanolHostapd.Ap.StaInfo

/-!
# Management frames

Where the parts of a `struct ieee80211_mgmt` are.
-/

namespace Ethanol

/-- `IEEE80211_HDRLEN`. -/
def ieee80211Hdrlen : ℕ := 24

/-- `sizeof(struct ieee80211_mgmt)`; the largest member of the unions is an FT action response. -/
def ieee80211MgmtLen : ℕ := 24 + (1 + 15)

/-- An address in a frame. -/
def macAddrAt (frame : List UInt8) (pos : ℕ) : Option MacAddr :=
  if h : pos + 6 ≤ frame.length then some (Vector.ofFn fun i : Fin 6 => frame.get ⟨pos + i, by omega⟩) else none

lemma macAddrAt_eq_some {frame : List UInt8} {pos : ℕ} (h : pos + 6 ≤ frame.length) :
    ∃ addr, macAddrAt frame pos = some addr := ⟨_, dif_pos h⟩

end Ethanol

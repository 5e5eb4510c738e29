/-!
# Powers

A power of a number is that of the language's own arithmetic.  An algebra library has powers in
every monoid and prefers those, so the preference is settled here, and a power means the same
whether or not such a library is imported.
-/

set_option autoImplicit false

attribute [instance (20000)] instPowNat
attribute [default_instance 20000] instPowNat

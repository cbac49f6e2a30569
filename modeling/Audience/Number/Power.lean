/-!
# Powers

A power of a natural number or of an integer is the one of the core library, whatever other
powers are in scope.  So it means the same where it is computed and where it is proved about.
-/

attribute [instance (20000), default_instance 20000] instPowNat

/-!
Powers with natural exponents. Those of natural numbers and of integers are the ones of the core
language, also where other structures give them powers of their own.
-/

attribute [instance (high), default_instance 20000] instPowNat

/-!
# Powers

A power of a natural number or an integer is the core one, whatever library stands beside it.
-/
namespace FormStudio

attribute [default_instance 20000,
instance 20000] instPowNat

end FormStudio

/-! # Parts of a window

A window has an extent and a stride along every axis; a convolution has a stride and a padding.
Messages name the part whose entries are wrong.
-/

namespace TensorShape

inductive WindowPart where
  | extent
  | stride
  deriving DecidableEq

def WindowPart.text : WindowPart → String
  | .extent => "window"
  | .stride => "stride"

inductive ConvolutionPart where
  | stride
  | padding
  deriving DecidableEq

def ConvolutionPart.text : ConvolutionPart → String
  | .stride => "stride"
  | .padding => "padding"

end TensorShape

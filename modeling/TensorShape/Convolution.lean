import TensorShape.Axis.Naming
import TensorShape.NamedShape
import TensorShape.Window.Positions

/-! # Convolutions

The input of a convolution has a batch axis, a channel axis and spatial axes; the kernel has an axis
of output channels, one of input channels and a filter extent for each spatial axis. The result has
the batch of the input, the output channels of the kernel, and the positions of the filter along
the padded spatial axes. Names stay as they are, and channels are not compared.
-/

namespace TensorShape

def filterPositions (dim extent stride : Int) : Outcome Int :=
  if stride = 0 then .fault .zeroStride else pure (positions dim extent stride)

/-- The shape of the convolution of an input with a kernel. -/
def convolve (input : Shape) (names : GivenNames) (kernel strides : List Int)
    (padding : List (List Int)) : Outcome NamedShape := do
  let names ← names.assign input
  let spatialRank := input.length - 2
  if input.length < 2 ∨ kernel.length ≠ input.length then reject (.kernelRank input kernel)
  else if strides.length ≠ spatialRank then
    reject (.convolutionCount .stride spatialRank strides.length)
  else if padding.length ≠ spatialRank then
    reject (.convolutionCount .padding spatialRank padding.length)
  else
    let edges ← padding.mapM EdgePadding.ofList
    let unpadded : EdgePadding := ⟨0, 0⟩
    let padded ← padAxes input ((unpadded :: unpadded :: edges).map EdgePadding.toPadding)
    let spatial ← (windowAxes (padded.drop 2) (kernel.drop 2) strides).mapM
      fun (dim, extent, stride) => filterPositions dim extent stride
    LabelledShape.build (input.take 1 ++ kernel.take 1 ++ spatial) names

end TensorShape
